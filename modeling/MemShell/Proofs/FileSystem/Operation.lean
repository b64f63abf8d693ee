import MemShell.FileSystem
import MemShell.Proofs.FileSystem.Files
import MemShell.Proofs.Path.Canonical
import MemShell.Proofs.Run

/-!
# Operations on a file system

The operations as data, so that a run of a file system is a list of them, and what each one does
to the directories. A refused operation changes nothing (`perform_eq_self_of_error`). An accepted
one replaces one directory (`openFile`, `erase`, `write`), adds one and its entry in the list of
its parent (`makeDirectory_ok`), or takes both away (`removeDirectory_ok`).
-/

namespace MemShell.FileSystem

inductive Operation where
  | makeDirectory (parent name : String)
  | removeDirectory (path : String)
  | list (path : String)
  | openFile (path name : String)
  | erase (path name : String)
  | content (path name : String)
  | write (path name content : String)
  | contains (path : String)
deriving DecidableEq, Repr

/-- What an accepted operation answers. -/
inductive Answer where
  | done
  | path (path : String)
  | listing (listing : Listing)
  | file (file : File)
  | content (content : String)
  | isThere (there : Bool)
deriving DecidableEq, Repr

/-- The outcome of an operation that may be refused, and then leaves the file system as it is. -/
def settle {α : Type} (fs : FileSystem) (answer : α → Answer) :
    Except FsError (Outcome FileSystem α) → Outcome FileSystem (Except FsError Answer)
  | .ok done => ⟨.ok (answer done.value), done.state, done.events⟩
  | .error e => ⟨.error e, fs, []⟩

/-- Carry out one operation. -/
def perform (fs : FileSystem) : Operation → Outcome FileSystem (Except FsError Answer)
  | .makeDirectory parent name => fs.settle .path (fs.makeDirectory parent name)
  | .removeDirectory path => fs.settle (fun _ => .done) (fs.removeDirectory path)
  | .list path => ⟨(fs.list path).map .listing, fs, []⟩
  | .openFile path name => fs.settle .file (fs.openFile path name)
  | .erase path name => fs.settle (fun _ => .done) (fs.erase path name)
  | .content path name => ⟨(fs.content path name).map .content, fs, []⟩
  | .write path name content => fs.settle (fun _ => .done) (fs.write path name content)
  | .contains path => ⟨.ok (.isThere (fs.contains path)), fs, []⟩

theorem settle_eq_self_of_error {α : Type} {fs : FileSystem} {answer : α → Answer}
    {result : Except FsError (Outcome FileSystem α)} {e : FsError}
    (h : (fs.settle answer result).value = .error e) : (fs.settle answer result).state = fs := by
  cases result with
  | ok done => cases h
  | error => rfl

theorem settle_ok {α : Type} {fs : FileSystem} {answer : α → Answer}
    {result : Except FsError (Outcome FileSystem α)} {given : Answer}
    (h : (fs.settle answer result).value = .ok given) :
    ∃ done, result = .ok done ∧ (fs.settle answer result).state = done.state := by
  cases result with
  | ok done => exact ⟨done, rfl, rfl⟩
  | error => cases h

/-- A refused operation leaves the file system as it is. -/
theorem perform_eq_self_of_error {fs : FileSystem} {op : Operation} {e : FsError}
    (h : (fs.perform op).value = .error e) : (fs.perform op).state = fs := by
  cases op with
  | makeDirectory | removeDirectory | openFile | erase | write => exact settle_eq_self_of_error h
  | list | content | contains => rfl

/-! ## Looking up -/

theorem contains_eq_true_iff {fs : FileSystem} {path : String} :
    fs.contains path = true ↔ ∃ dir, fs.directory? path = some dir :=
  Option.isSome_iff_exists

theorem contains_eq_false_iff {fs : FileSystem} {path : String} :
    fs.contains path = false ↔ fs.directory? path = none := by
  simp [contains]

theorem directory_of_some {fs : FileSystem} {path : String} {dir : Directory}
    (h : fs.directory? path = some dir) : fs.directory path = .ok dir := by
  simp [directory, h]

theorem directory_of_none {fs : FileSystem} {path : String} (h : fs.directory? path = none) :
    fs.directory path = .error (.notFound (Path.display path)) := by
  simp [directory, h]

theorem directory?_put_self (fs : FileSystem) (path : String) (dir : Directory) :
    (fs.put path dir).directory? path = some dir := by
  rw [directory?_put, if_pos rfl]

theorem put_put (fs : FileSystem) (path : String) (dir other : Directory) :
    (fs.put path dir).put path other = fs.put path other := by
  apply ext_directory?
  intro place
  rw [directory?_put, directory?_put, directory?_put]
  split
  · rfl
  · rfl

theorem put_self {fs : FileSystem} {path : String} {dir : Directory}
    (hdir : fs.directory? path = some dir) : fs.put path dir = fs := by
  apply ext_directory?
  intro other
  rw [directory?_put]
  split
  · next heq => rw [← heq, hdir]
  · rfl

theorem directory?_bare (path : String) :
    bare.directory? path = if path = Path.root then some (.empty Path.root) else none := by
  have hbare : bare = put ⟨∅⟩ Path.root (.empty Path.root) := rfl
  rw [hbare, directory?_put]
  simp [directory?, eq_comm]

/-! ## Making and removing directories -/

/-- A valid name that is free in a directory gives a new directory, and the two are the only
places that change. -/
theorem makeDirectory_of_fresh {fs : FileSystem} {parent name : String} {dir : Directory}
    (hname : isValidName name = true) (hdir : fs.directory? parent = some dir)
    (hfresh : fs.directory? (Path.join parent name) = none) :
    fs.makeDirectory parent name = .ok ⟨Path.join parent name,
      (fs.put (Path.join parent name) (.empty name)).put parent (dir.addSubdirectory name),
      [.directoryCreated (Path.join parent name)]⟩ := by
  have hparent : fs.contains parent = true := contains_eq_true_iff.2 ⟨dir, hdir⟩
  have hchild : fs.contains (Path.join parent name) = false := contains_eq_false_iff.2 hfresh
  have hne : Path.join parent name ≠ parent := by
    intro heq
    rw [heq, hdir] at hfresh
    cases hfresh
  simp only [makeDirectory, hname, hparent, hchild, Bool.true_eq_false, Bool.false_eq_true,
    ↓reduceIte, Except.ok.injEq, Outcome.mk.injEq, and_true, true_and]
  -- The parent is changed in place here and replaced there, which shows at no path.
  apply ext_directory?
  intro path
  rw [directory?_put, directory?_put]
  simp only [directory?, Std.ExtTreeMap.getElem?_modify, Std.ExtTreeMap.getElem?_insert,
    Std.LawfulEqCmp.compare_eq_iff_eq] at hdir ⊢
  by_cases hpath : parent = path
  · subst hpath
    simp [hne, hdir]
  · simp [hpath]

theorem makeDirectory_ok {fs : FileSystem} {parent name : String}
    {made : Outcome FileSystem String} (h : fs.makeDirectory parent name = .ok made) :
    isValidName name = true ∧ fs.directory? (Path.join parent name) = none ∧
      ∃ dir, fs.directory? parent = some dir ∧
        made = ⟨Path.join parent name,
          (fs.put (Path.join parent name) (.empty name)).put parent (dir.addSubdirectory name),
          [.directoryCreated (Path.join parent name)]⟩ := by
  have hopen := h
  unfold makeDirectory at hopen
  by_cases hname : isValidName name = false
  · rw [if_pos hname] at hopen
    cases hopen
  by_cases hparent : fs.contains parent = false
  · rw [if_neg hname, if_pos hparent] at hopen
    cases hopen
  by_cases hchild : fs.contains (Path.join parent name) = true
  · rw [if_neg hname, if_neg hparent, if_pos hchild] at hopen
    cases hopen
  have hname := Bool.of_not_eq_false hname
  obtain ⟨dir, hdir⟩ := contains_eq_true_iff.1 (Bool.of_not_eq_false hparent)
  have hfresh := contains_eq_false_iff.1 (Bool.of_not_eq_true hchild)
  rw [makeDirectory_of_fresh hname hdir hfresh] at h
  exact ⟨hname, hfresh, dir, hdir, (Except.ok.inj h).symm⟩

theorem removeDirectory_of_isEmpty {fs : FileSystem} {path : String} {dir : Directory}
    (hroot : path ≠ Path.root) (hdir : fs.directory? path = some dir)
    (hempty : dir.isEmpty = true) : ∃ removed, fs.removeDirectory path = .ok removed := by
  rw [removeDirectory, if_neg hroot, directory_of_some hdir]
  simp only [hempty, Bool.true_eq_false, ↓reduceIte]
  exact ⟨_, rfl⟩

/-- A directory that is removed is there, below the root and empty, and it goes together with its
entry in the list of its parent. -/
theorem removeDirectory_ok {fs : FileSystem} {path : String} {removed : Outcome FileSystem Unit}
    (h : fs.removeDirectory path = .ok removed) :
    path ≠ Path.root ∧ ∃ dir, fs.directory? path = some dir ∧ dir.isEmpty = true ∧
      removed.events = [.directoryRemoved path] ∧
      ∀ other, removed.state.directory? other =
        if other = path then none
        else if other = Path.parent path then
          (fs.directory? other).map (·.dropSubdirectory dir.name)
        else fs.directory? other := by
  unfold removeDirectory at h
  by_cases hroot : path = Path.root
  · rw [if_pos hroot] at h
    cases h
  rw [if_neg hroot] at h
  cases hdir : fs.directory? path with
  | none =>
    rw [directory_of_none hdir] at h
    cases h
  | some dir =>
    rw [directory_of_some hdir] at h
    dsimp only at h
    by_cases hempty : dir.isEmpty = false
    · rw [if_pos hempty] at h
      cases h
    rw [if_neg hempty] at h
    cases h
    refine ⟨hroot, dir, rfl, Bool.of_not_eq_false hempty, rfl, fun other => ?_⟩
    simp only [directory?, Std.ExtTreeMap.getElem?_modify, Std.ExtTreeMap.getElem?_erase,
      Std.LawfulEqCmp.compare_eq_iff_eq]
    by_cases hself : path = other
    · subst hself
      by_cases hparent : Path.parent path = path
      · simp only [hparent, ↓reduceIte, Option.map_none]
      · simp only [hparent, ↓reduceIte]
    · by_cases hparent : Path.parent path = other
      · subst hparent
        simp only [hself, Ne.symm hself, ↓reduceIte]
      · simp only [hself, hparent, Ne.symm hself, Ne.symm hparent, ↓reduceIte]

/-- Making several directories is a run that makes them one by one. -/
theorem state_makeDirectories (fs : FileSystem) (parent : String) (names : List String) :
    Run.state perform fs (names.map (.makeDirectory parent)) =
      (fs.makeDirectories parent names).state := by
  induction names generalizing fs with
  | nil => rfl
  | cons name names ih =>
    rw [List.map_cons, Run.state_cons, ih, makeDirectories, perform]
    cases hmade : fs.makeDirectory parent name with
    | ok made => rfl
    | error e => rfl

/-! ## Changing the files of a directory -/

/-- Opening a file that is there changes nothing; any other is added at the end. -/
theorem openFile_ok {fs : FileSystem} {path name : String} {opened : Outcome FileSystem File}
    (h : fs.openFile path name = .ok opened) :
    ∃ dir, fs.directory? path = some dir ∧
      ((∃ file, dir.file? name = some file ∧ opened = ⟨file, fs, []⟩) ∨
        (dir.file? name = none ∧
          opened =
            ⟨⟨name, ""⟩, fs.put path (dir.addFile ⟨name, ""⟩), [.fileCreated path name]⟩)) := by
  unfold openFile at h
  cases hdir : fs.directory? path with
  | none =>
    rw [directory_of_none hdir] at h
    cases h
  | some dir =>
    rw [directory_of_some hdir] at h
    refine ⟨dir, rfl, ?_⟩
    cases hfile : dir.file? name with
    | some file =>
      simp only [hfile] at h
      cases h
      exact .inl ⟨file, rfl, rfl⟩
    | none =>
      simp only [hfile] at h
      cases h
      exact .inr ⟨rfl, rfl⟩

theorem erase_ok {fs : FileSystem} {path name : String} {removed : Outcome FileSystem Unit}
    (h : fs.erase path name = .ok removed) :
    ∃ dir file, fs.directory? path = some dir ∧ dir.file? name = some file ∧
      removed = ⟨(), fs.put path (dir.dropFile name), [.fileRemoved path name]⟩ := by
  unfold erase at h
  cases hdir : fs.directory? path with
  | none =>
    rw [directory_of_none hdir] at h
    cases h
  | some dir =>
    rw [directory_of_some hdir] at h
    cases hfile : dir.file? name with
    | none =>
      simp only [hfile] at h
      cases h
    | some file =>
      simp only [hfile] at h
      cases h
      exact ⟨dir, file, rfl, hfile, rfl⟩

theorem write_ok {fs : FileSystem} {path name content : String} {written : Outcome FileSystem Unit}
    (h : fs.write path name content = .ok written) :
    ∃ dir, fs.directory? path = some dir ∧
      written = ⟨(), fs.put path (dir.putFile name content),
        [.fileWritten path name content.utf8ByteSize]⟩ := by
  unfold write at h
  cases hdir : fs.directory? path with
  | none =>
    rw [directory_of_none hdir] at h
    cases h
  | some dir =>
    rw [directory_of_some hdir] at h
    cases h
    exact ⟨dir, rfl, rfl⟩

theorem write_of_some {fs : FileSystem} {path : String} {dir : Directory}
    (h : fs.directory? path = some dir) (name content : String) :
    fs.write path name content = .ok ⟨(), fs.put path (dir.putFile name content),
      [.fileWritten path name content.utf8ByteSize]⟩ := by
  rw [write, directory_of_some h]

theorem openFile_of_some {fs : FileSystem} {path : String} {dir : Directory}
    (h : fs.directory? path = some dir) (name : String) :
    ∃ opened, fs.openFile path name = .ok opened := by
  rw [openFile, directory_of_some h]
  dsimp only
  split
  · exact ⟨_, rfl⟩
  · exact ⟨_, rfl⟩

/-- Opening a file before it is written makes no difference. -/
theorem write_openFile {fs : FileSystem} {path name : String} {opened : Outcome FileSystem File}
    (h : fs.openFile path name = .ok opened) (content : String) :
    opened.state.write path name content = fs.write path name content := by
  obtain ⟨dir, hdir, ⟨file, -, rfl⟩ | ⟨hfresh, rfl⟩⟩ := openFile_ok h
  · rfl
  · rw [write, write, directory_of_some (directory?_put_self ..), directory_of_some hdir]
    dsimp only
    rw [put_put, Directory.putFile_addFile hfresh, Directory.putFile_of_fresh hfresh]

/-- What was written is read. -/
theorem content_write {fs : FileSystem} {path name content : String}
    {written : Outcome FileSystem Unit} (h : fs.write path name content = .ok written) :
    written.state.content path name = .ok content := by
  obtain ⟨dir, hdir, rfl⟩ := write_ok h
  rw [FileSystem.content, directory_of_some (directory?_put_self ..)]
  dsimp only
  rw [Directory.file?_putFile]

/-- A file that was written is opened with its content, and nothing is made. -/
theorem openFile_write {fs : FileSystem} {path name content : String}
    {written : Outcome FileSystem Unit} (h : fs.write path name content = .ok written) :
    written.state.openFile path name = .ok ⟨⟨name, content⟩, written.state, []⟩ := by
  obtain ⟨dir, hdir, rfl⟩ := write_ok h
  rw [openFile, directory_of_some (directory?_put_self ..)]
  dsimp only
  rw [Directory.file?_putFile]

theorem content_eq_ok_iff {fs : FileSystem} {path name content : String} :
    fs.content path name = .ok content ↔
      ∃ dir file, fs.directory? path = some dir ∧ dir.file? name = some file ∧
        file.content = content := by
  rw [FileSystem.content]
  cases hdir : fs.directory? path with
  | none => simp [directory_of_none hdir]
  | some dir =>
    rw [directory_of_some hdir]
    cases hfile : dir.file? name with
    | none => simp [hfile]
    | some file => simp [hfile]

/-- A file that can be read can be removed. -/
theorem erase_of_content {fs : FileSystem} {path name content : String}
    (h : fs.content path name = .ok content) : ∃ removed, fs.erase path name = .ok removed := by
  obtain ⟨dir, file, hdir, hfile, -⟩ := content_eq_ok_iff.1 h
  rw [erase, directory_of_some hdir]
  dsimp only
  rw [hfile]
  exact ⟨_, rfl⟩

/-- The file in front is found at once. -/
theorem erase_of_cons {fs : FileSystem} {path : String} {dir : Directory} {file : File}
    {files : List File} (hdir : fs.directory? path = some dir)
    (hfiles : dir.files = file :: files) :
    fs.erase path file.name =
      .ok ⟨(), fs.put path { dir with files }, [.fileRemoved path file.name]⟩ := by
  have hfile : dir.file? file.name = some file := by
    rw [Directory.file?, hfiles, List.find?_cons_of_pos (by simp)]
  rw [erase, directory_of_some hdir]
  simp [hfile, Directory.dropFile, hfiles]

theorem content_openFile {fs : FileSystem} {path name : String}
    {opened : Outcome FileSystem File} (h : fs.openFile path name = .ok opened) :
    opened.state.content path name = .ok opened.value.content := by
  obtain ⟨dir, hdir, ⟨file, hfile, rfl⟩ | ⟨hfresh, rfl⟩⟩ := openFile_ok h
  · exact content_eq_ok_iff.2 ⟨dir, file, hdir, hfile, rfl⟩
  · exact content_eq_ok_iff.2
      ⟨_, _, directory?_put_self .., Directory.file?_addFile hfresh "", rfl⟩

theorem content_of_openFile {fs : FileSystem} {path name : String}
    {opened : Outcome FileSystem File} (h : fs.openFile path name = .ok opened) :
    (fs.content path name).toOption.getD "" = opened.value.content := by
  obtain ⟨dir, hdir, ⟨file, hfile, rfl⟩ | ⟨hfresh, rfl⟩⟩ := openFile_ok h
  · rw [content_eq_ok_iff.2 ⟨dir, file, hdir, hfile, rfl⟩]
    rfl
  · rw [FileSystem.content, directory_of_some hdir]
    simp [hfresh, Except.toOption]

/-- A new directory shows in no file. -/
theorem content_makeDirectory {fs : FileSystem} {parent child path name content : String}
    {made : Outcome FileSystem String} (hmade : fs.makeDirectory parent child = .ok made)
    (h : fs.content path name = .ok content) : made.state.content path name = .ok content := by
  obtain ⟨-, hfresh, above, habove, rfl⟩ := makeDirectory_ok hmade
  obtain ⟨dir, file, hdir, hfile, hcontent⟩ := content_eq_ok_iff.1 h
  rw [content_eq_ok_iff]
  by_cases hparent : parent = path
  · subst hparent
    have hsame : above = dir := Option.some.inj (habove.symm.trans hdir)
    subst hsame
    exact ⟨_, file, directory?_put_self .., hfile, hcontent⟩
  · have hother : Path.join parent child ≠ path := by
      intro heq
      rw [heq, hdir] at hfresh
      cases hfresh
    refine ⟨dir, file, ?_, hfile, hcontent⟩
    rw [directory?_put, if_neg hparent, directory?_put, if_neg hother]
    exact hdir

/-! ## Which directories are there afterwards -/

variable {fs : FileSystem} {path : String}

theorem contains_put {other : String} {dir : Directory} :
    (fs.put path dir).contains other = true ↔ path = other ∨ fs.contains other = true := by
  rw [contains, directory?_put]
  by_cases h : path = other
  · simp [h]
  · simp [h, contains]

/-- Only the removal of a directory makes a path point at nothing. -/
theorem contains_makeDirectory {parent name : String} {made : Outcome FileSystem String}
    (hmade : fs.makeDirectory parent name = .ok made) (h : fs.contains path = true) :
    made.state.contains path = true := by
  obtain ⟨-, -, dir, -, rfl⟩ := makeDirectory_ok hmade
  exact contains_put.2 (.inr (contains_put.2 (.inr h)))

theorem contains_makeDirectories {parent : String} {names : List String}
    (h : fs.contains path = true) :
    (fs.makeDirectories parent names).state.contains path = true := by
  induction names generalizing fs with
  | nil => exact h
  | cons name names ih =>
    rw [makeDirectories]
    cases hmade : fs.makeDirectory parent name with
    | ok made => exact ih (contains_makeDirectory hmade h)
    | error e => exact ih h

theorem contains_removeDirectory {removed : Outcome FileSystem Unit}
    (h : fs.removeDirectory path = .ok removed) {other : String} :
    removed.state.contains other = true ↔ other ≠ path ∧ fs.contains other = true := by
  obtain ⟨-, dir, -, -, -, hstate⟩ := removeDirectory_ok h
  rw [contains, hstate]
  by_cases hself : other = path
  · simp [hself]
  · by_cases hparent : other = Path.parent path
    · simp [← hparent, hself, contains]
    · simp [hself, hparent, contains]

theorem contains_openFile {dir name : String} {opened : Outcome FileSystem File}
    (hopened : fs.openFile dir name = .ok opened) (h : fs.contains path = true) :
    opened.state.contains path = true := by
  obtain ⟨there, -, ⟨file, -, rfl⟩ | ⟨-, rfl⟩⟩ := openFile_ok hopened
  · exact h
  · exact contains_put.2 (.inr h)

theorem contains_erase {dir name : String} {removed : Outcome FileSystem Unit}
    (hremoved : fs.erase dir name = .ok removed) (h : fs.contains path = true) :
    removed.state.contains path = true := by
  obtain ⟨there, file, -, -, rfl⟩ := erase_ok hremoved
  exact contains_put.2 (.inr h)

theorem contains_write {dir name content : String} {written : Outcome FileSystem Unit}
    (hwritten : fs.write dir name content = .ok written) (h : fs.contains path = true) :
    written.state.contains path = true := by
  obtain ⟨there, -, rfl⟩ := write_ok hwritten
  exact contains_put.2 (.inr h)

end MemShell.FileSystem
