import MemShell.Proofs.Session.Listing
import MemShell.Proofs.Session.Removal

/-!
# Emptying a session

Nothing that a session holds is there to stay: with `cd`, `rm` and `rmdir` alone a user gets back to
the bare root, and no line of that is answered with an error (`clearing_empties`). `clearingLines`
writes the lines down. A directory is gone to, its files are removed by their names, and then it is
removed itself, from the root so that it is not busy. It is empty by then because the directories
are taken in the descending order of their paths: the path of a directory begins with the path of
its parent (`le_child`), so it is greater and its turn is earlier.

`Clears` says of a stretch of lines that it is of this kind and where it leads. One directory after
the other, `Remaining` holds: what is left of the tree are the directories whose turn is to come,
with all of their files (`Remaining.step`).
-/

namespace MemShell

namespace FileSystem

variable {fs : FileSystem} {path : String}

/-! ## The lines -/

/-- The directories below the root, each behind all that lie below it. -/
def removalOrder (fs : FileSystem) : List String :=
  (fs.index.keys.filter (· ≠ Path.root)).reverse

/-- The lines that go to a directory and remove its files. -/
def emptyingLines (fs : FileSystem) (path : String) : List String :=
  ("cd " ++ Path.display path) :: (fs.listing path).files.map ("rm " ++ ·)

/-- The lines that empty a directory without subdirectories and remove it. -/
def removalLines (fs : FileSystem) (path : String) : List String :=
  fs.emptyingLines path ++ ["cd " ++ Path.display Path.root, "rmdir " ++ Path.display path]

/-- The lines that remove everything but the root. -/
def clearingLines (fs : FileSystem) : List String :=
  fs.removalOrder.flatMap fs.removalLines ++ fs.emptyingLines Path.root

theorem mem_removalOrder : path ∈ fs.removalOrder ↔ path ≠ Path.root ∧ fs.contains path = true := by
  rw [removalOrder, List.mem_reverse, List.mem_filter, Std.ExtTreeMap.mem_keys,
    Std.ExtTreeMap.mem_iff_isSome_getElem?, and_comm, decide_eq_true_eq]
  rfl

theorem pairwise_removalOrder (fs : FileSystem) :
    fs.removalOrder.Pairwise fun path other => other < path := by
  rw [removalOrder, List.pairwise_reverse]
  have hkeys : fs.index.keys.Pairwise (· < ·) :=
    Std.ExtTreeMap.ordered_keys.imp fun {path other} (h : compare path other = .lt) =>
      compareOfLessAndEq_eq_lt.1 h
  exact hkeys.filter _

/-! ## A directory that is emptied and removed -/

theorem contains_of_emptied {dir : Directory} {removed : Outcome FileSystem Unit}
    (hremoved : (fs.put path dir).removeDirectory path = .ok removed) (other : String) :
    removed.state.contains other = true ↔ other ≠ path ∧ fs.contains other = true := by
  rw [contains_removeDirectory hremoved, contains_put]
  refine and_congr_right fun hne => ?_
  simp [Ne.symm hne]

/-- The files of the other directories stay. -/
theorem TreeShaped.files_of_emptied {dir : Directory} {removed : Outcome FileSystem Unit}
    (h : TreeShaped ValidName fs) (hdir : fs.directory? path = some dir)
    (hremoved : (fs.put path { dir with files := [] }).removeDirectory path = .ok removed)
    {other : String} (hne : other ≠ path) :
    (removed.state.listing other).files = (fs.listing other).files := by
  have htree : TreeShaped ValidName (fs.put path { dir with files := [] }) :=
    h.withFiles hdir rfl rfl List.nodup_nil
  obtain ⟨up, name, -, -, -, hlisting⟩ := listing_removeDirectory htree hremoved
  have hfiles : (removed.state.listing other).files =
      ((fs.put path { dir with files := [] }).listing other).files := by
    rw [hlisting]
    split
    · rfl
    · rfl
  rw [hfiles, listing_put, if_neg (Ne.symm hne)]

end FileSystem

namespace Session

variable {s next last : Session} {lines more : List String} {path : String} {dir : Directory}

/-! ## Stretches of lines -/

/-- The lines call `cd`, `rm` and `rmdir` only, none is answered with an error, and they lead to
`next`. -/
structure Clears (s : Session) (lines : List String) (next : Session) : Prop where
  calls : ∀ line ∈ lines, ∃ name ∈ ["cd", "rm", "rmdir"], ∃ arg, Text.words line = [name, arg]
  quiet : ∀ reply ∈ Run.answers submit s lines, ∀ line ∈ reply.output, line.isError = false
  state : Run.state submit s lines = next

namespace Clears

theorem nil (s : Session) : Clears s [] s :=
  ⟨List.forall_mem_nil _, List.forall_mem_nil _, rfl⟩

theorem append (h : Clears s lines next) (hmore : Clears next more last) :
    Clears s (lines ++ more) last := by
  constructor
  · exact List.forall_mem_append.2 ⟨h.calls, hmore.calls⟩
  · rw [Run.answers_append, h.state]
    exact List.forall_mem_append.2 ⟨h.quiet, hmore.quiet⟩
  · rw [Run.state_append, h.state, hmore.state]

/-- A single call. -/
theorem call {name arg : String} {reply : Reply} (hname : name ∈ ["cd", "rm", "rmdir"])
    (harg : Text.IsWord arg) (hvalue : (s.submit (name ++ " " ++ arg)).value = reply)
    (hquiet : ∀ line ∈ reply.output, line.isError = false)
    (hstate : (s.submit (name ++ " " ++ arg)).state = next) :
    Clears s [name ++ " " ++ arg] next := by
  have hword : ∀ name ∈ ["cd", "rm", "rmdir"], Text.IsWord name := by decide
  refine ⟨fun line hline => ?_, fun answer hanswer => ?_, hstate⟩
  · rw [List.mem_singleton.1 hline]
    exact ⟨name, hname, arg, Text.words_call (hword name hname) harg⟩
  · rw [Run.answers, Run.answers, List.mem_singleton, hvalue] at hanswer
    rw [hanswer]
    exact hquiet

theorem standing (h : Clears s lines next) (hs : Standing s) : Standing next :=
  h.state ▸ Run.invariant (fun _ line hs => hs.submit line) hs lines

end Clears

theorem clears_cd (h : Standing s) (hmode : s.mode = .prompting)
    (hpath : s.fs.contains path = true) :
    ∃ log, Clears s ["cd " ++ Path.display path] { s with cwd := path, log } := by
  obtain ⟨hvalue, log, hstate⟩ := submit_cd_display h hmode hpath
  exact ⟨log, @Clears.call s _ "cd" (Path.display path) _ (by simp) (h.tree.isWord_display hpath)
    hvalue (List.forall_mem_nil _) hstate⟩

/-- The files of the current directory are removed from the front. -/
theorem clears_files {files : List File} (hmode : s.mode = .prompting)
    (hdir : s.fs.directory? s.cwd = some dir) (hfiles : dir.files = files)
    (hwords : ∀ file ∈ files, Text.IsWord file.name) :
    ∃ log, Clears s (files.map fun file => "rm " ++ file.name)
      { s with fs := s.fs.put s.cwd { dir with files := [] }, log } := by
  induction files generalizing s dir with
  | nil =>
    have hempty : { dir with files := [] } = dir := by rw [← hfiles]
    refine ⟨s.log, ?_⟩
    rw [hempty, FileSystem.put_self hdir]
    exact .nil s
  | cons file files ih =>
    obtain ⟨hword, hrest⟩ := List.forall_mem_cons.1 hwords
    obtain ⟨hvalue, log, hstate⟩ :=
      submit_erase hmode hword (FileSystem.erase_of_cons hdir hfiles)
    have hfirst : Clears s ["rm " ++ file.name]
        { s with fs := s.fs.put s.cwd { dir with files }, log } :=
      @Clears.call s _ "rm" file.name _ (by simp) hword hvalue
        (by simp [Reply.ofLines, Line.isError]) hstate
    obtain ⟨log, hothers⟩ :=
      @ih { s with fs := s.fs.put s.cwd { dir with files }, log } { dir with files } hmode
        (FileSystem.directory?_put_self ..) rfl hrest
    refine ⟨log, ?_⟩
    dsimp only at hothers
    rw [FileSystem.put_put] at hothers
    exact hfirst.append hothers

/-- What goes to a directory and removes its files. -/
theorem clears_emptyingLines (h : Standing s) (hmode : s.mode = .prompting)
    (hdir : s.fs.directory? path = some dir)
    (hwords : ∀ name ∈ (s.fs.listing path).files, Text.IsWord name) :
    ∃ log, Clears s (s.fs.emptyingLines path)
      { s with cwd := path, fs := s.fs.put path { dir with files := [] }, log } := by
  obtain ⟨log, hcd⟩ := clears_cd h hmode (FileSystem.contains_eq_true_iff.2 ⟨dir, hdir⟩)
  rw [FileSystem.listing_of_some hdir] at hwords
  obtain ⟨log, hfiles⟩ := @clears_files { s with cwd := path, log } dir dir.files hmode hdir rfl
    (List.forall_mem_map.1 hwords)
  refine ⟨log, ?_⟩
  have hlines : s.fs.emptyingLines path =
      ["cd " ++ Path.display path] ++ dir.files.map fun file => "rm " ++ file.name := by
    rw [FileSystem.emptyingLines, FileSystem.listing_of_some hdir, Directory.listing, List.map_map]
    rfl
  rw [hlines]
  exact hcd.append hfiles

/-- From the root every other directory can be removed once it is empty. -/
theorem clears_rmdir (h : Standing s) (hmode : s.mode = .prompting) (hcwd : s.cwd = Path.root)
    (hroot : path ≠ Path.root) (hdir : s.fs.directory? path = some dir)
    (hempty : dir.isEmpty = true) :
    ∃ removed log, s.fs.removeDirectory path = .ok removed ∧
      Clears s ["rmdir " ++ Path.display path] { s with fs := removed.state, log } := by
  have hthere : s.fs.contains path = true := FileSystem.contains_eq_true_iff.2 ⟨dir, hdir⟩
  have hresolve : PathArg.resolve ⟨Path.display path⟩ s.cwd = path :=
    h.tree.resolve_display hthere s.cwd
  have hfree : ¬ Path.segments path <+: Path.segments s.cwd := by
    intro hprefix
    rw [hcwd, Path.segments_root, List.prefix_nil] at hprefix
    rw [← (h.tree.segment_of_directory? hdir).ofSegments_segments, hprefix] at hroot
    exact hroot Path.ofSegments_nil
  obtain ⟨removed, hremoved, hok⟩ :=
    @Standing.attempt_rmdir_of_isEmpty s ⟨Path.display path⟩ h dir (hresolve.symm ▸ hdir)
      (hresolve.symm ▸ hfree) hempty
  rw [hresolve] at hremoved
  obtain ⟨hvalue, log, hstate⟩ := @submit_call s "rmdir" (Path.display path) _ _ hmode (by decide)
    (h.tree.isWord_display hthere) rfl (execute_of_ok hok)
  exact ⟨removed, log, hremoved, @Clears.call s _ "rmdir" (Path.display path) _ (by simp)
    (h.tree.isWord_display hthere) hvalue (by simp [removedFrom, Reply.ofLines, Line.isError])
    hstate⟩

/-- A directory without subdirectories is emptied and removed. -/
theorem clears_removalLines (h : Standing s) (hmode : s.mode = .prompting)
    (hroot : path ≠ Path.root) (hdir : s.fs.directory? path = some dir)
    (hleaf : dir.subdirectories = [])
    (hwords : ∀ name ∈ (s.fs.listing path).files, Text.IsWord name) :
    ∃ removed log,
      (s.fs.put path { dir with files := [] }).removeDirectory path = .ok removed ∧
        Clears s (s.fs.removalLines path)
          { s with cwd := Path.root, fs := removed.state, log } := by
  obtain ⟨log, hemptied⟩ := clears_emptyingLines h hmode hdir hwords
  have hstanding := hemptied.standing h
  obtain ⟨log, hback⟩ := clears_cd hstanding hmode hstanding.tree.root
  have hempty : Directory.isEmpty { dir with files := [] } = true :=
    Directory.isEmpty_iff.2 ⟨rfl, hleaf⟩
  obtain ⟨removed, log, hremoved, hrmdir⟩ := clears_rmdir (hback.standing hstanding) hmode rfl hroot
    (FileSystem.directory?_put_self ..) hempty
  exact ⟨removed, log, hremoved, hemptied.append (hback.append hrmdir)⟩

/-! ## Directory by directory -/

/-- What is left of the tree `fs` are the root and the directories at `paths`, with all the files
that they had. -/
structure Remaining (fs : FileSystem) (paths : List String) (s : Session) : Prop where
  standing : Standing s
  mode : s.mode = .prompting
  ordered : paths.Pairwise fun path other => other < path
  root : Path.root ∉ paths
  contains : ∀ path, s.fs.contains path = true ↔ path = Path.root ∨ path ∈ paths
  files : ∀ path, s.fs.contains path = true → (s.fs.listing path).files = (fs.listing path).files

namespace Remaining

variable {fs : FileSystem} {paths : List String}

theorem start (h : Standing s) (hmode : s.mode = .prompting) :
    Remaining s.fs s.fs.removalOrder s := by
  refine ⟨h, hmode, s.fs.pairwise_removalOrder, ?_, fun path => ?_, fun _ _ => rfl⟩
  · simp [FileSystem.mem_removalOrder]
  · rw [FileSystem.mem_removalOrder]
    by_cases hroot : path = Path.root
    · simp [hroot, h.tree.root]
    · simp [hroot]

/-- A directory has no subdirectories left if no path that is left is greater. -/
theorem subdirectories_eq_nil (h : Remaining fs paths s) (hdir : s.fs.directory? path = some dir)
    (hlast : ∀ other ∈ paths, other ≤ path) : dir.subdirectories = [] := by
  rw [List.eq_nil_iff_forall_not_mem]
  intro name hname
  have hlisted : name ∈ (s.fs.listing path).dirs := by
    rw [FileSystem.listing_of_some hdir]
    exact hname
  obtain ⟨hpath, hvalid, hthere⟩ := h.standing.tree.contains_of_listed hlisted
  have hchild := ((h.contains _).1 hthere).resolve_left (Path.child_ne_root hpath hvalid.isSegment)
  exact Path.child_ne_self hpath hvalid.isSegment
    (String.le_antisymm (hlast _ hchild) (Path.le_child path name))

theorem emptyingLines_eq (h : Remaining fs paths s) (hpath : s.fs.contains path = true) :
    s.fs.emptyingLines path = fs.emptyingLines path := by
  rw [FileSystem.emptyingLines, h.files path hpath, FileSystem.emptyingLines]

/-- The next directory is emptied and removed, and the rest stays. -/
theorem step (h : Remaining fs (path :: paths) s)
    (hwords : ∀ path, ∀ name ∈ (fs.listing path).files, Text.IsWord name) :
    ∃ next, Clears s (fs.removalLines path) next ∧ Remaining fs paths next := by
  have hthere : s.fs.contains path = true := (h.contains path).2 (.inr List.mem_cons_self)
  obtain ⟨dir, hdir⟩ := FileSystem.contains_eq_true_iff.1 hthere
  obtain ⟨hbefore, hordered⟩ := List.pairwise_cons.1 h.ordered
  have hroot : path ≠ Path.root := fun heq => h.root (heq ▸ List.mem_cons_self)
  -- All that lies below it is greater and has had its turn.
  have hlast : ∀ other ∈ path :: paths, other ≤ path := by
    refine List.forall_mem_cons.2 ⟨String.le_refl path, fun other hother => ?_⟩
    exact String.not_lt.1 (String.lt_asymm (hbefore other hother))
  have hfresh : path ∉ paths := fun hmem => String.lt_irrefl path (hbefore path hmem)
  obtain ⟨removed, log, hremoved, hclears⟩ := clears_removalLines h.standing h.mode hroot hdir
    (h.subdirectories_eq_nil hdir hlast) (h.files path hthere ▸ hwords path)
  have hlines : s.fs.removalLines path = fs.removalLines path := by
    rw [FileSystem.removalLines, h.emptyingLines_eq hthere, FileSystem.removalLines]
  refine ⟨_, hlines ▸ hclears, hclears.standing h.standing, h.mode, hordered,
    fun hmem => h.root (List.mem_cons_of_mem path hmem), fun other => ?_, fun other hother => ?_⟩
  · rw [FileSystem.contains_of_emptied hremoved, h.contains, List.mem_cons]
    constructor
    · rintro ⟨hne, hother | hother | hother⟩
      · exact .inl hother
      · exact absurd hother hne
      · exact .inr hother
    · rintro (rfl | hother)
      · exact ⟨Ne.symm hroot, .inl rfl⟩
      · exact ⟨fun heq => hfresh (heq ▸ hother), .inr (.inr hother)⟩
  · obtain ⟨hne, hkept⟩ := (FileSystem.contains_of_emptied hremoved other).1 hother
    rw [h.standing.tree.files_of_emptied hdir hremoved hne, h.files other hkept]

/-- One directory after the other, until only the root is left. -/
theorem run (h : Remaining fs paths s)
    (hwords : ∀ path, ∀ name ∈ (fs.listing path).files, Text.IsWord name) :
    ∃ next, Clears s (paths.flatMap fs.removalLines) next ∧ Remaining fs [] next := by
  induction paths generalizing s with
  | nil => exact ⟨s, .nil s, h⟩
  | cons path paths ih =>
    obtain ⟨next, hfirst, hnext⟩ := h.step hwords
    obtain ⟨last, hrest, hlast⟩ := ih hnext
    exact ⟨last, hfirst.append hrest, hlast⟩

end Remaining

/-- At the prompt, after any actions but commands executed past the command line, there are lines
that call `cd`, `rm` and `rmdir` only, none of which is answered with an error, and after them the
session stands in a root that holds nothing and is the only directory. -/
theorem clearing_empties (settings : Settings) (actions : List Action)
    (hlines : ∀ command, .execute command ∉ actions)
    (hmode : (after settings actions).mode = .prompting) :
    let s := after settings actions
    let lines := s.fs.clearingLines
    let cleared := Run.state submit s lines
    (∀ line ∈ lines, ∃ name ∈ ["cd", "rm", "rmdir"], ∃ arg, Text.words line = [name, arg]) ∧
      (∀ reply ∈ Run.answers submit s lines, ∀ line ∈ reply.output, line.isError = false) ∧
      (∀ path, cleared.fs.contains path = true ↔ path = Path.root) ∧
      cleared.fs.list Path.root = .ok ⟨[], []⟩ ∧ cleared.cwd = Path.root := by
  intro s lines cleared
  have hstanding : Standing s := .after settings actions
  have hwords : ∀ path, ∀ name ∈ (s.fs.listing path).files, Text.IsWord name :=
    fun path name hname => isWord_of_listed settings hlines hname
  obtain ⟨bare, hremoved, hleft⟩ := (Remaining.start hstanding hmode).run hwords
  obtain ⟨dir, hdir⟩ := FileSystem.contains_eq_true_iff.1 hleft.standing.tree.root
  have hleaf := hleft.subdirectories_eq_nil hdir (List.forall_mem_nil _)
  have hthere : bare.fs.contains Path.root = true := hleft.standing.tree.root
  obtain ⟨log, hemptied⟩ := clears_emptyingLines hleft.standing hleft.mode hdir
    (hleft.files _ hthere ▸ hwords Path.root)
  rw [hleft.emptyingLines_eq hthere] at hemptied
  have hclears : Clears s lines _ := hremoved.append hemptied
  have hcleared : cleared = _ := hclears.state
  refine ⟨hclears.calls, hclears.quiet, fun path => ?_, ?_, ?_⟩
  · rw [hcleared, FileSystem.contains_put, hleft.contains]
    simp [eq_comm]
  · rw [hcleared, FileSystem.list, FileSystem.directory_of_some (FileSystem.directory?_put_self ..)]
    simp [Except.map, Directory.listing, hleaf]
  · rw [hcleared]

/-- From two directories down, with a desktop folder that holds a directory and with files that are
called like paths. -/
theorem clearing_empties_nested :
    let actions : List Action :=
      [.submit "cd home", .submit "nano ..", .editorInput "up", .editorKey true "s",
        .editorCommand .exit, .createFolder "docs", .submit "cd docs", .submit "mkdir music",
        .submit "nano a/b", .editorKey true "x"]
    let s := after .standard actions
    ((∀ command, .execute command ∉ actions) ∧ s.mode = .prompting) ∧
      s.fs.clearingLines =
        ["cd /var", "cd /", "rmdir /var", "cd /home/docs/music", "cd /", "rmdir /home/docs/music",
          "cd /home/docs", "rm a/b", "cd /", "rmdir /home/docs", "cd /home", "rm ..", "cd /",
          "rmdir /home", "cd /bin", "cd /", "rmdir /bin", "cd /"] ∧
      (Run.state submit s s.fs.clearingLines).fs.list Path.root = .ok ⟨[], []⟩ ∧
      (Run.state submit s s.fs.clearingLines).cwd = Path.root := by
  intro actions s
  have hlines : ∀ command, .execute command ∉ actions := by
    intro command
    simp [actions]
  have hmode : s.mode = .prompting := by decide +kernel
  obtain ⟨-, -, -, hlist, hcwd⟩ := clearing_empties .standard actions hlines hmode
  exact ⟨⟨hlines, hmode⟩, by decide +kernel, hlist, hcwd⟩

end Session

end MemShell
