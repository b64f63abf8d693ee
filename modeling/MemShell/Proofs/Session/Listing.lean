import MemShell.Proofs.Session.Operations
import MemShell.Proofs.Session.Places
import MemShell.Proofs.Session.Visit

/-!
# What `ls` shows

`ls` puts the names in a directory on one line with blanks between them. As long as commands come
from command lines, all of these names are words: those of subdirectories by the rule for names,
those of files because they were typed. So the line can be read back, and each name on it is an
argument that `cd`, `cat` and `rm` take for what it is, also a file name that would be a path
(`ls_usable`).
-/

namespace MemShell

theorem Listing.isEmpty_iff {listing : Listing} :
    listing.isEmpty = true ↔ listing.dirs = [] ∧ listing.files = [] := by
  rw [isEmpty, names, List.isEmpty_iff, List.append_eq_nil_iff]

namespace Session

variable {s : Session} {file : String}

/-! ## Single steps -/

theorem submit_ls (hmode : s.mode = .prompting) {listing : Listing}
    (hlisting : s.fs.list s.cwd = .ok listing) :
    (s.submit "ls").value =
      .ofLines (if listing.isEmpty then [] else [.text ("  ".intercalate listing.names)]) := by
  have hwords : Text.words "ls" = ["ls"] := by decide
  have hexecute : (s.execute (.ls none)).value =
      .ofLines (if listing.isEmpty then [] else [.text ("  ".intercalate listing.names)]) := by
    rw [execute, attempt, executeLs, Option.map_none, Option.getD_none, hlisting]
    dsimp only
    cases listing.isEmpty with
    | true => rfl
    | false => rfl
  exact (submit_of_words hmode hwords rfl).1.trans hexecute

/-- `rm` with a file that the file system removes says so, and besides that the log gets longer. -/
theorem submit_erase (hmode : s.mode = .prompting) (hfile : Text.IsWord file)
    {removed : Outcome FileSystem Unit} (hremoved : s.fs.erase s.cwd file = .ok removed) :
    (s.submit ("rm " ++ file)).value = .ofLines [.success ("File '" ++ file ++ "' removed")] ∧
      ∃ log, (s.submit ("rm " ++ file)).state = { s with fs := removed.state, log } := by
  have hexecute : s.execute (.rm file) =
      ⟨.ofLines [.success ("File '" ++ file ++ "' removed")], { s with fs := removed.state },
        removed.events⟩ := by
    rw [execute, attempt, executeRm, hremoved]
  exact @submit_call s "rm" file _ _ hmode (by decide) hfile rfl hexecute

theorem submit_rm (hmode : s.mode = .prompting) (hfile : Text.IsWord file)
    {removed : Outcome FileSystem Unit} (hremoved : s.fs.erase s.cwd file = .ok removed) :
    (s.submit ("rm " ++ file)).value = .ofLines [.success ("File '" ++ file ++ "' removed")] :=
  (submit_erase hmode hfile hremoved).1

/-! ## Listed names -/

/-- A subdirectory that is listed is gone to by its name. -/
theorem submit_cd_of_listed (h : Standing s) (hmode : s.mode = .prompting) {name : String}
    (hname : name ∈ (s.fs.listing s.cwd).dirs) :
    (s.submit ("cd " ++ name)).value = .empty ∧
      (s.submit ("cd " ++ name)).state.cwd = s.cwd ++ name ++ "/" := by
  obtain ⟨hcwd, hvalid, hthere⟩ := h.tree.contains_of_listed hname
  have hresolve : Path.resolve s.cwd name = Path.child s.cwd name :=
    Path.join_eq_child hcwd hvalid.isName
  rw [← hresolve] at hthere
  obtain ⟨hvalue, log, hstate⟩ := submit_cd hmode hvalid.isWord hthere
  have hmoved : (s.submit ("cd " ++ name)).state.cwd = Path.resolve s.cwd name :=
    congrArg cwd hstate
  exact ⟨hvalue, hmoved.trans hresolve⟩

/-- At the prompt, after any actions but commands executed past the command line, `ls` says nothing
in an empty directory, and otherwise it writes one line whose words are the names of the
subdirectories and then those of the files, in the order of their creation. `cd` goes into each of
the subdirectories, and `cat` and `rm` find each of the files, whatever it is called. -/
theorem ls_usable (settings : Settings) (actions : List Action)
    (hlines : ∀ command, .execute command ∉ actions)
    (hmode : (after settings actions).mode = .prompting) :
    let s := after settings actions
    ∃ listing, s.fs.list s.cwd = .ok listing ∧
      FileSystem.ListedByCreation (history settings actions) s.cwd listing ∧
      ((s.submit "ls").value.output = [] ↔ listing.dirs = [] ∧ listing.files = []) ∧
      (¬ (listing.dirs = [] ∧ listing.files = []) →
        ∃ text, (s.submit "ls").value.output = [.text text] ∧
          Text.words text = listing.dirs ++ listing.files) ∧
      (∀ name ∈ listing.dirs,
        (s.submit ("cd " ++ name)).value = .empty ∧
          (s.submit ("cd " ++ name)).state.cwd = s.cwd ++ name ++ "/") ∧
      ∀ name ∈ listing.files,
        (∃ content, s.fs.content s.cwd name = .ok content ∧
          (s.submit ("cat " ++ name)).value =
            .ofLines (if content = "" then [] else [.text content])) ∧
        (s.submit ("rm " ++ name)).value =
          .ofLines [.success ("File '" ++ name ++ "' removed")] := by
  intro s
  have hstanding : Standing s := .after settings actions
  have hlist := FileSystem.list_of_contains hstanding.cwd
  have hls := congrArg Reply.output (submit_ls hmode hlist)
  have hfiles : ∀ name ∈ (s.fs.listing s.cwd).files, Text.IsWord name :=
    fun name hname => isWord_of_listed settings hlines hname
  have hdirs : ∀ name ∈ (s.fs.listing s.cwd).dirs, Text.IsWord name :=
    fun name hname => (hstanding.tree.contains_of_listed hname).2.1.isWord
  refine ⟨_, hlist, listedByCreation_after settings actions s.cwd, ?_, fun hnames => ?_,
    fun name hname => submit_cd_of_listed hstanding hmode hname, fun name hname => ?_⟩
  · rw [hls, ← Listing.isEmpty_iff]
    simp [Reply.ofLines]
  · rw [← Listing.isEmpty_iff] at hnames
    rw [if_neg hnames] at hls
    refine ⟨_, hls, Text.words_intercalate fun name hname => ?_⟩
    exact (List.mem_append.1 hname).elim (hdirs name) (hfiles name)
  · obtain ⟨content, hcontent⟩ := FileSystem.mem_files_listing.1 hname
    obtain ⟨removed, hremoved⟩ := FileSystem.erase_of_content hcontent
    exact ⟨⟨content, hcontent, (submit_cat hmode (hfiles name hname) hcontent).1⟩,
      submit_rm hmode (hfiles name hname) hremoved⟩

/-- A subdirectory that was removed and made again, and files that are called like paths. -/
theorem ls_usable_paths :
    let actions : List Action :=
      [.submit "cd home", .submit "mkdir a b", .submit "rmdir a", .submit "mkdir a",
        .submit "nano ..", .editorInput "up", .editorKey true "s", .editorCommand .exit,
        .createFolder "c", .submit "nano a/b", .editorCommand .exit]
    (∀ command, .execute command ∉ actions) ∧ (after .standard actions).mode = .prompting ∧
      (∃ text, ((after .standard actions).submit "ls").value.output = [.text text] ∧
        Text.words text = ["b", "a", "c", "..", "a/b"]) ∧
      ((after .standard actions).submit ("cd " ++ "a")).state.cwd = "/home/a/" ∧
      ((after .standard actions).submit ("cat " ++ "..")).value = .ofLines [.text "up"] ∧
      ((after .standard actions).submit ("rm " ++ "a/b")).value =
        .ofLines [.success "File 'a/b' removed"] := by
  intro actions
  have hlines : ∀ command, .execute command ∉ actions := by
    intro command
    simp [actions]
  have hmode : (after .standard actions).mode = .prompting := by decide +kernel
  have hcwd : (after .standard actions).cwd = "/home/" := by decide +kernel
  have hnames : ((after .standard actions).fs.list (after .standard actions).cwd).toOption =
      some ⟨["b", "a", "c"], ["..", "a/b"]⟩ := by
    decide +kernel
  have hup : ((after .standard actions).fs.content (after .standard actions).cwd "..").toOption =
      some "up" := by
    decide +kernel
  obtain ⟨listing, hlist, -, -, hls, hcd, hfiles⟩ := ls_usable .standard actions hlines hmode
  obtain rfl : listing = ⟨["b", "a", "c"], ["..", "a/b"]⟩ := by
    rw [hlist] at hnames
    exact Option.some.inj hnames
  have hmoved := (hcd "a" (by decide)).2
  rw [hcwd] at hmoved
  obtain ⟨⟨content, hcontent, hcat⟩, -⟩ := hfiles ".." (by decide)
  obtain rfl : content = "up" := by
    rw [hcontent] at hup
    exact Option.some.inj hup
  exact ⟨hlines, hmode, hls (by simp), hmoved, hcat, (hfiles "a/b" (by decide)).2⟩

end Session

end MemShell
