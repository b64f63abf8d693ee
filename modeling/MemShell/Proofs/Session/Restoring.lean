import MemShell.Proofs.Session.Folders
import MemShell.Proofs.Session.Listing
import MemShell.Proofs.Session.Making
import MemShell.Proofs.Session.Removal

/-!
# Making and removing again

What is made stands last: a new directory at the end of the list of its parent, a new file at the
end of the files. So taking it out again leaves the list that was there before, and since the index
loses the path that it has gained, the file system is the same one again
(`removeDirectory_makeDirectory`, `erase_addFile`). `mkdir` joins the name to the current directory
and `rmdir` resolves it there, which comes to the same place, and that place lies below the session
and so is not busy (`Standing.submit_rmdir_child`). Between `nano` and `rm` any number of saves may
come, but all of them go to the new file and leave it where it stands (`Drafts.run`).
`removal_restores` says both of every session at the prompt.
-/

namespace MemShell

theorem Directory.dropSubdirectory_addSubdirectory {dir : Directory} {name : String}
    (hnew : name ∉ dir.subdirectories) :
    (dir.addSubdirectory name).dropSubdirectory name = dir := by
  have hkept : dir.subdirectories.filter (· ≠ name) = dir.subdirectories := by
    refine List.filter_eq_self.2 fun other hother => ?_
    have hne : other ≠ name := fun heq => hnew (heq ▸ hother)
    simpa using hne
  rw [dropSubdirectory, addSubdirectory, List.filter_append, hkept,
    List.filter_cons_of_neg (by simp), List.filter_nil, List.append_nil]

namespace FileSystem

variable {fs : FileSystem} {path parent name : String} {dir : Directory}

/-- A directory that was made can be removed, and then all is as it was. -/
theorem removeDirectory_makeDirectory {made : Outcome FileSystem String}
    (h : TreeShaped ValidName fs) (hmade : fs.makeDirectory parent name = .ok made) :
    ∃ removed, made.state.removeDirectory made.value = .ok removed ∧ removed.state = fs := by
  obtain ⟨hvalid, hfresh, above, habove, rfl⟩ := makeDirectory_ok hmade
  have hname : ValidName name := hvalid
  have hparent := h.segment_of_directory? habove
  rw [Path.join_eq_child hparent hname.isName] at hfresh ⊢
  have hunlisted := (h.directory?_child_eq_none_iff hparent hname.isSegment habove).1 hfresh
  have hne : Path.child parent name ≠ parent := Path.child_ne_self hparent hname.isSegment
  have hnew : ((fs.put (Path.child parent name) (.empty name)).put parent
      (above.addSubdirectory name)).directory? (Path.child parent name) =
        some (.empty name) := by
    rw [directory?_put, if_neg (Ne.symm hne), directory?_put_self]
  obtain ⟨removed, hremoved⟩ :=
    removeDirectory_of_isEmpty (Path.child_ne_root hparent hname.isSegment) hnew rfl
  obtain ⟨-, gone, hgone, -, -, hstate⟩ := removeDirectory_ok hremoved
  obtain rfl : Directory.empty name = gone := Option.some.inj (hnew.symm.trans hgone)
  refine ⟨removed, hremoved, ext_directory? fun other => ?_⟩
  rw [hstate, Path.parent_child hparent hname.isSegment]
  by_cases hself : other = Path.child parent name
  · rw [if_pos hself, hself, hfresh]
  · rw [if_neg hself]
    by_cases hup : other = parent
    · have hname : (Directory.empty name).name = name := rfl
      rw [if_pos hup, hup, directory?_put_self, Option.map_some, hname,
        Directory.dropSubdirectory_addSubdirectory hunlisted, habove]
    · rw [if_neg hup, directory?_put, if_neg (Ne.symm hup), directory?_put, if_neg (Ne.symm hself)]

theorem openFile_of_fresh (hdir : fs.directory? path = some dir) (hfresh : dir.file? name = none) :
    fs.openFile path name =
      .ok ⟨⟨name, ""⟩, fs.put path (dir.addFile ⟨name, ""⟩), [.fileCreated path name]⟩ := by
  rw [openFile, directory_of_some hdir]
  dsimp only
  rw [hfresh]

/-- A file that was added last is removed, and then all is as it was. -/
theorem erase_addFile (hdir : fs.directory? path = some dir) (hfresh : dir.file? name = none)
    (content : String) :
    (fs.put path (dir.addFile ⟨name, content⟩)).erase path name =
      .ok ⟨(), fs, [.fileRemoved path name]⟩ := by
  rw [erase, directory_of_some (directory?_put_self ..)]
  dsimp only
  rw [Directory.file?_addFile hfresh, Directory.dropFile_addFile hfresh, put_put, put_self hdir]

end FileSystem

namespace Session

open FileSystem (ValidName)

variable {s next : Session} {name file : String} {dir : Directory}

/-! ## Directories -/

namespace Standing

/-- `mkdir` makes a new directory the last one of the current directory. -/
theorem submit_mkdir_new (h : Standing s) (hmode : s.mode = .prompting) (hname : ValidName name)
    (hdir : s.fs.directory? s.cwd = some dir) (hnew : name ∉ dir.subdirectories) :
    ∃ made, s.fs.makeDirectory s.cwd name = .ok made ∧ made.value = Path.child s.cwd name ∧
      made.state.directory? s.cwd = some (dir.addSubdirectory name) ∧
      (s.submit ("mkdir " ++ name)).value =
        .ofLines [.success ("Directory '" ++ name ++ "' created")] ∧
      ∃ log, (s.submit ("mkdir " ++ name)).state = { s with fs := made.state, log } := by
  have hmade := FileSystem.makeDirectory_of_isNew h.tree hdir
    ⟨FileSystem.isValidName_iff.1 hname, hnew, List.not_mem_nil⟩
  obtain ⟨hvalue, log, hstate⟩ := submit_mkdir hmode hname.isWord
  rw [FileSystem.perform, hmade] at hstate
  rw [hmade] at hvalue
  exact ⟨_, hmade, rfl, FileSystem.directory?_put_self .., hvalue, log, hstate⟩

/-- `rmdir` finds a directory by its name, and one that lies in the current directory is not
busy. -/
theorem submit_rmdir_child (h : Standing s) (hmode : s.mode = .prompting) (hname : ValidName name)
    {removed : Outcome FileSystem Unit}
    (hremoved : s.fs.removeDirectory (Path.child s.cwd name) = .ok removed) :
    (s.submit ("rmdir " ++ name)).value =
        .ofLines [.success ("Directory '" ++ name ++ "' removed")] ∧
      ∃ log, (s.submit ("rmdir " ++ name)).state = { s with fs := removed.state, log } := by
  obtain ⟨here, hhere⟩ := FileSystem.contains_eq_true_iff.1 h.cwd
  have hcwd := h.tree.segment_of_directory? hhere
  have hresolve : PathArg.resolve ⟨name⟩ s.cwd = Path.child s.cwd name :=
    Path.join_eq_child hcwd hname.isName
  have hfree : ¬ Path.segments (Path.child s.cwd name) <+: Path.segments s.cwd := by
    intro hprefix
    have hlength := hprefix.length_le
    rw [Path.segments_child hcwd hname.isSegment, List.length_append, List.length_singleton]
      at hlength
    omega
  obtain ⟨-, dir, hdir, hempty, -, -⟩ := FileSystem.removeDirectory_ok hremoved
  rw [← hresolve] at hremoved hdir hfree
  obtain ⟨same, hsame, hok⟩ := h.attempt_rmdir_of_isEmpty hdir hfree hempty
  obtain rfl : removed = same := Except.ok.inj (hremoved.symm.trans hsame)
  exact @submit_call s "rmdir" name _ _ hmode (by decide) hname.isWord rfl (execute_of_ok hok)

end Standing

/-! ## Files -/

/-- Input to an open editor that leaves it open. -/
def Action.StaysOpen (action : Action) : Prop :=
  action.IsUnsaved ∨ action.control? = some .save

/-- The session `s` has opened a file that was not in its directory, and is editing it since. -/
structure Drafts (s : Session) (dir : Directory) (file : String) (next : Session) : Prop where
  editor : ∃ editor, next.mode = .editing editor ∧ editor.dir = s.cwd ∧ editor.file = file
  fs : ∃ content, next.fs = s.fs.put s.cwd (dir.addFile ⟨file, content⟩)
  rest : ∃ log, next = { s with fs := next.fs, mode := next.mode, log }

namespace Drafts

theorem of_nano (hmode : s.mode = .prompting) (hfile : Text.IsWord file)
    (hdir : s.fs.directory? s.cwd = some dir) (hfresh : dir.file? file = none) :
    Drafts s dir file (s.submit ("nano " ++ file)).state := by
  obtain ⟨-, log, hstate⟩ := submit_nano hmode hfile (FileSystem.openFile_of_fresh hdir hfresh)
  rw [hstate]
  exact ⟨⟨_, rfl, rfl, rfl⟩, ⟨"", rfl⟩, log, rfl⟩

/-- A save replaces what the file holds. -/
theorem act (h : Drafts s dir file next) (hfresh : dir.file? file = none) {action : Action}
    (haction : action.StaysOpen) : Drafts s dir file (next.act action).state := by
  obtain ⟨editor, hmode, hplace, hname⟩ := h.editor
  obtain ⟨content, hfs⟩ := h.fs
  obtain ⟨log, hrest⟩ := h.rest
  rcases haction with hunsaved | hsave
  · obtain ⟨buffer, hstate⟩ := act_of_isUnsaved hmode hunsaved
    rw [hstate]
    exact ⟨⟨_, rfl, hplace, hname⟩, ⟨content, hfs⟩, log, by rw [hrest]⟩
  · have hthere : next.fs.directory? editor.dir = some (dir.addFile ⟨file, content⟩) := by
      rw [hfs, hplace, FileSystem.directory?_put_self]
    have hwritten := FileSystem.write_of_some hthere editor.file editor.buffer
    rw [act_of_control hsave, editorCommand, hmode]
    dsimp only
    rw [save_of_write hwritten]
    refine ⟨⟨_, rfl, hplace, hname⟩, ⟨editor.buffer, ?_⟩, _, by rw [hrest]⟩
    dsimp only
    rw [hfs, hplace, hname, FileSystem.put_put, Directory.putFile_addFile hfresh]

theorem run (h : Drafts s dir file next) (hfresh : dir.file? file = none) {steps : List Action}
    (hsteps : ∀ action ∈ steps, action.StaysOpen) :
    Drafts s dir file (Run.state Session.act next steps) :=
  Run.invariant_of_allowed (fun _ _ haction h => h.act hfresh haction) h hsteps

/-- Once the editor is left, `rm` takes the file away again. -/
theorem submit_rm (h : Drafts s dir file next) (hmode : s.mode = .prompting)
    (hfile : Text.IsWord file) (hdir : s.fs.directory? s.cwd = some dir)
    (hfresh : dir.file? file = none) {exit : Action} (hexit : exit.control? = some .exit) :
    let removed := (next.act exit).state.submit ("rm " ++ file)
    removed.value = .ofLines [.success ("File '" ++ file ++ "' removed")] ∧
      ∃ log, removed.state = { s with log } := by
  obtain ⟨editor, hediting, -, -⟩ := h.editor
  obtain ⟨content, hfs⟩ := h.fs
  obtain ⟨log, hrest⟩ := h.rest
  have hleft : (next.act exit).state =
      { s with fs := s.fs.put s.cwd (dir.addFile ⟨file, content⟩), log } := by
    rw [act_exit hediting hexit, hrest, hfs, hmode]
  intro removed
  have hremoved := FileSystem.erase_addFile hdir hfresh content
  obtain ⟨hvalue, last, hstate⟩ := @submit_erase (next.act exit).state file
    (by rw [hleft]; exact hmode) hfile _ (by rw [hleft]; exact hremoved)
  refine ⟨hvalue, last, ?_⟩
  rw [hstate, hleft]

end Drafts

/-! ## Every session -/

/-- At the prompt, a valid name that is new in the current directory is made into a directory, which
the current directory lists last and `ls` as the last one of the subdirectories, before the files.
`rmdir` then removes it, and a file that `nano` has made is removed by `rm`, whatever was typed and
saved in between. In both cases nothing of the session but its log is different from before: not the
file system with all its orders, and not the current directory. -/
theorem removal_restores (settings : Settings) (actions : List Action)
    (hmode : (after settings actions).mode = .prompting) :
    let s := after settings actions
    ∃ listing, s.fs.list s.cwd = .ok listing ∧
      (∀ name, ValidName name → name ∉ listing.dirs →
        let made := s.submit ("mkdir " ++ name)
        let removed := made.state.submit ("rmdir " ++ name)
        (made.value = .ofLines [.success ("Directory '" ++ name ++ "' created")] ∧
          made.state.fs.contains (s.cwd ++ name ++ "/") = true ∧
          made.state.fs.list s.cwd = .ok { listing with dirs := listing.dirs ++ [name] } ∧
          (made.state.submit "ls").value =
            .ofLines [.text ("  ".intercalate (listing.dirs ++ [name] ++ listing.files))] ∧
          made.state.cwd = s.cwd) ∧
        removed.value = .ofLines [.success ("Directory '" ++ name ++ "' removed")] ∧
          ∃ log, removed.state = { s with log }) ∧
      ∀ file, Text.IsWord file → file ∉ listing.files →
        ∀ steps, (∀ action ∈ steps, action.StaysOpen) →
        ∀ exit : Action, exit.control? = some .exit →
          let opened := (s.submit ("nano " ++ file)).state
          let left := ((Run.state act opened steps).act exit).state
          let removed := left.submit ("rm " ++ file)
          removed.value = .ofLines [.success ("File '" ++ file ++ "' removed")] ∧
            ∃ log, removed.state = { s with log } := by
  intro s
  have hstanding : Standing s := .after settings actions
  obtain ⟨dir, hdir⟩ := FileSystem.contains_eq_true_iff.1 hstanding.cwd
  refine ⟨dir.listing, ?_, fun name hname hnew => ?_,
    fun file hfile hnew steps hsteps exit hexit => ?_⟩
  · rw [FileSystem.list, FileSystem.directory_of_some hdir]
    rfl
  · intro made removed
    obtain ⟨folder, hfolder, hpath, hparent, hcreated, log, hmade⟩ :=
      hstanding.submit_mkdir_new hmode hname hdir hnew
    have hmade : made.state = { s with fs := folder.state, log } := hmade
    have hprompt : made.state.mode = .prompting := by rw [hmade]; exact hmode
    have hlist : made.state.fs.list made.state.cwd =
        .ok { dir.listing with dirs := dir.listing.dirs ++ [name] } := by
      rw [hmade, FileSystem.list, FileSystem.directory_of_some hparent]
      rfl
    obtain ⟨gone, hgone, hrestored⟩ :=
      FileSystem.removeDirectory_makeDirectory hstanding.tree hfolder
    rw [hpath] at hgone
    have hremoved : made.state.fs.removeDirectory (Path.child made.state.cwd name) = .ok gone := by
      rw [hmade]
      exact hgone
    have hfilled : made.state.fs.contains (Path.child s.cwd name) = true := by
      obtain ⟨-, there, hthere, -⟩ := FileSystem.removeDirectory_ok hgone
      rw [hmade]
      exact FileSystem.contains_eq_true_iff.2 ⟨there, hthere⟩
    have hls := submit_ls hprompt hlist
    obtain ⟨hvalue, last, hstate⟩ :=
      (hstanding.submit ("mkdir " ++ name)).submit_rmdir_child hprompt hname hremoved
    refine ⟨⟨hcreated, hfilled, ?_, ?_, by rw [hmade]⟩, hvalue, last, ?_⟩
    · rw [← hlist, hmade]
    · rw [hls, if_neg (by simp [Listing.isEmpty_iff])]
      rfl
    · have hstate : removed.state = { made.state with fs := gone.state, log := last } := hstate
      rw [hstate, hmade, hrestored]
  · have hfresh : dir.file? file = none := Directory.file?_eq_none_iff.2 hnew
    have hopened := Drafts.of_nano hmode hfile hdir hfresh
    exact (hopened.run hfresh hsteps).submit_rm hmode hfile hdir hfresh hexit

/-- Where a file is called `music`, a directory of that name is made and removed, and a file that is
called like the directory above is saved twice, edited once more and removed. -/
theorem removal_restores_namesakes :
    let actions : List Action :=
      [.submit "cd home", .submit "nano music", .editorCommand .exit, .submit "mkdir films"]
    let steps : List Action :=
      [.editorInput "draft", .editorCommand .save, .editorInput "kept", .editorKey true "S",
        .editorInput "lost"]
    let exit : Action := .editorKey true "x"
    let s := after .standard actions
    let made := s.submit ("mkdir " ++ "music")
    let left := ((Run.state act (s.submit ("nano " ++ "..")).state steps).act exit).state
    s.mode = .prompting ∧ (s.fs.list s.cwd).toOption = some ⟨["films"], ["music"]⟩ ∧
      (ValidName "music" ∧ (made.state.submit "ls").value = .ofLines [.text "films  music  music"] ∧
        ∃ log, (made.state.submit ("rmdir " ++ "music")).state = { s with log }) ∧
      (Text.IsWord ".." ∧ (∀ action ∈ steps, action.StaysOpen) ∧ exit.control? = some .exit) ∧
      (left.fs.content s.cwd "..").toOption = some "kept" ∧
        ∃ log, (left.submit ("rm " ++ "..")).state = { s with log } := by
  intro actions steps exit s made left
  have hmode : s.mode = .prompting := by decide +kernel
  have hlist : (s.fs.list s.cwd).toOption = some ⟨["films"], ["music"]⟩ := by decide +kernel
  have hname : ValidName "music" := by decide
  have hfile : Text.IsWord ".." := by decide
  have hsteps : ∀ action ∈ steps, action.StaysOpen := by
    simp [steps, Action.StaysOpen, Action.IsUnsaved, Action.control?, EditorCommand.ofKey?]
  have hexit : exit.control? = some .exit := by decide
  obtain ⟨listing, hlisting, hdirs, hfiles⟩ := removal_restores .standard actions hmode
  obtain rfl : listing = ⟨["films"], ["music"]⟩ := by
    rw [hlisting] at hlist
    exact Option.some.inj hlist
  obtain ⟨⟨-, -, -, hls, -⟩, -, hrmdir⟩ := hdirs "music" hname (by decide)
  obtain ⟨-, hrm⟩ := hfiles ".." hfile (by decide) steps hsteps exit hexit
  have hkept : (left.fs.content s.cwd "..").toOption = some "kept" := by decide +kernel
  exact ⟨hmode, hlist, ⟨hname, hls, hrmdir⟩, ⟨hfile, hsteps, hexit⟩, hkept, hrm⟩

/-- Where there is a file, `ls` does not show the new directory last. -/
theorem listed_before_files :
    let s := after .standard [.submit "nano notes", .editorCommand .exit]
    s.mode = .prompting ∧ ValidName "docs" ∧
      (s.fs.list s.cwd).toOption = some ⟨["bin", "home", "var"], ["notes"]⟩ ∧
      ∃ line, ((s.submit ("mkdir " ++ "docs")).state.submit "ls").value.output = [.text line] ∧
        Text.words line = ["bin", "home", "var", "docs", "notes"] ∧
        (Text.words line).getLast? ≠ some "docs" := by
  intro s
  have hwords : Text.words "bin  home  var  docs  notes" =
      ["bin", "home", "var", "docs", "notes"] := by decide
  refine ⟨rfl, by decide, by decide +kernel, "bin  home  var  docs  notes", by decide +kernel,
    hwords, ?_⟩
  rw [hwords]
  decide

end Session

end MemShell
