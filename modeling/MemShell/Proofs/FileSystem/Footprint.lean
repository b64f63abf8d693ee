import Mathlib.Data.List.Lattice
import MemShell.Proofs.FileSystem.Operation

/-!
# The footprint of an operation

An operation looks up only a few places of the index and writes no others, its `footprint`: the
directory that it works on, and for a directory that is made or removed its parent as well. Nothing
outside the footprint changes (`directory?_perform`), and nothing outside it matters to what is
answered and written (`SameOn.perform`). So an operation cannot tell whether another one has been
carried out before it if their footprints are disjoint, and the two can change places
(`perform_comm`).

This takes no invariant: the paths may be any text, in the index or not, canonical or not, and the
file system may be any.
-/

namespace MemShell.FileSystem

/-- The places that an operation looks up or writes. -/
def Operation.footprint : Operation → List String
  | .makeDirectory parent name => [parent, Path.join parent name]
  | .removeDirectory path => [path, Path.parent path]
  | .list path | .openFile path _ | .erase path _ | .content path _ | .write path _ _
  | .contains path => [path]

/-- Both file systems hold the same at the given places. -/
def AgreeOn (places : List String) (fs gs : FileSystem) : Prop :=
  ∀ path ∈ places, fs.directory? path = gs.directory? path

/-- In two file systems the same has happened, as far as the given places tell. -/
structure SameOn {α : Type} (places : List String) (done other : Outcome FileSystem α) : Prop where
  value : done.value = other.value
  events : done.events = other.events
  state : AgreeOn places done.state other.state

/-- In two file systems the same was refused, or the same has happened. -/
inductive SameResult {α : Type} (places : List String) :
    Except FsError (Outcome FileSystem α) → Except FsError (Outcome FileSystem α) → Prop
  | error (e : FsError) : SameResult places (.error e) (.error e)
  | ok {done other : Outcome FileSystem α} (h : SameOn places done other) :
    SameResult places (.ok done) (.ok other)

variable {fs gs : FileSystem} {places : List String} {path name content : String}

/-! ## Outside the footprint -/

theorem directory?_settle {α : Type} {answer : α → Answer}
    {result : Except FsError (Outcome FileSystem α)}
    (h : ∀ done, result = .ok done → done.state.directory? path = fs.directory? path) :
    (fs.settle answer result).state.directory? path = fs.directory? path := by
  cases result with
  | ok done => exact h done rfl
  | error e => rfl

theorem directory?_put_of_ne {other : String} (h : other ≠ path) (dir : Directory) :
    (fs.put path dir).directory? other = fs.directory? other := by
  rw [directory?_put, if_neg (Ne.symm h)]

/-- An operation leaves what is outside its footprint as it is. -/
theorem directory?_perform {op : Operation} (h : path ∉ op.footprint) :
    (fs.perform op).state.directory? path = fs.directory? path := by
  cases op with
  | makeDirectory parent name =>
    simp only [Operation.footprint, List.mem_cons, List.not_mem_nil, or_false, not_or] at h
    obtain ⟨hparent, hchild⟩ := h
    refine directory?_settle fun made hmade => ?_
    obtain ⟨-, -, above, -, rfl⟩ := makeDirectory_ok hmade
    exact (directory?_put_of_ne hparent _).trans (directory?_put_of_ne hchild _)
  | removeDirectory target =>
    simp only [Operation.footprint, List.mem_cons, List.not_mem_nil, or_false, not_or] at h
    obtain ⟨hself, hparent⟩ := h
    refine directory?_settle fun removed hremoved => ?_
    obtain ⟨-, dir, -, -, -, hstate⟩ := removeDirectory_ok hremoved
    rw [hstate, if_neg hself, if_neg hparent]
  | openFile target name =>
    refine directory?_settle fun opened hopened => ?_
    obtain ⟨dir, -, ⟨file, -, rfl⟩ | ⟨-, rfl⟩⟩ := openFile_ok hopened
    · rfl
    · exact directory?_put_of_ne (List.ne_of_not_mem_cons h) _
  | erase target name =>
    refine directory?_settle fun removed hremoved => ?_
    obtain ⟨dir, file, -, -, rfl⟩ := erase_ok hremoved
    exact directory?_put_of_ne (List.ne_of_not_mem_cons h) _
  | write target name content =>
    refine directory?_settle fun written hwritten => ?_
    obtain ⟨dir, -, rfl⟩ := write_ok hwritten
    exact directory?_put_of_ne (List.ne_of_not_mem_cons h) _
  | list | content | contains => rfl

/-! ## Inside the footprint -/

namespace AgreeOn

theorem directory_eq (h : AgreeOn places fs gs) (hpath : path ∈ places) :
    fs.directory path = gs.directory path := by
  rw [directory, directory, h path hpath]

theorem contains_eq (h : AgreeOn places fs gs) (hpath : path ∈ places) :
    fs.contains path = gs.contains path := by
  rw [contains, contains, h path hpath]

theorem put (h : AgreeOn places fs gs) (path : String) (dir : Directory) :
    AgreeOn places (fs.put path dir) (gs.put path dir) := by
  intro other hother
  rw [directory?_put, directory?_put, h other hother]

/-- Where a directory is changed in place, it is the same one that is changed. -/
theorem modify {index index' : Std.ExtTreeMap String Directory}
    (h : AgreeOn places ⟨index⟩ ⟨index'⟩) (hpath : path ∈ places) (change : Directory → Directory) :
    AgreeOn places ⟨index.modify path change⟩ ⟨index'.modify path change⟩ := by
  intro other hother
  have hsame : ∀ place ∈ places, index[place]? = index'[place]? := h
  simp only [directory?, Std.ExtTreeMap.getElem?_modify, hsame path hpath, hsame other hother]

theorem erase (h : AgreeOn places fs gs) (path : String) :
    AgreeOn places ⟨fs.index.erase path⟩ ⟨gs.index.erase path⟩ := by
  intro other hother
  have hsame : fs.index[other]? = gs.index[other]? := h other hother
  simp only [directory?, Std.ExtTreeMap.getElem?_erase, hsame]

/-- Whether a directory can be made is decided at its place and at its parent. -/
theorem makeDirectory {parent : String}
    (h : AgreeOn [parent, Path.join parent name] fs gs) :
    SameResult [parent, Path.join parent name] (fs.makeDirectory parent name)
      (gs.makeDirectory parent name) := by
  have hparent : parent ∈ [parent, Path.join parent name] := by simp
  have hchild : Path.join parent name ∈ [parent, Path.join parent name] := by simp
  rw [FileSystem.makeDirectory, FileSystem.makeDirectory, h.contains_eq hparent]
  dsimp only
  rw [h.contains_eq hchild]
  split
  · exact .error _
  · split
    · exact .error _
    · split
      · exact .error _
      · exact .ok ⟨rfl, rfl, (h.put _ _).modify hparent _⟩

theorem removeDirectory (h : AgreeOn [path, Path.parent path] fs gs) :
    SameResult [path, Path.parent path] (fs.removeDirectory path) (gs.removeDirectory path) := by
  rw [FileSystem.removeDirectory, FileSystem.removeDirectory, h.directory_eq (by simp)]
  split
  · exact .error _
  · split
    · exact .error _
    · split
      · exact .error _
      · exact .ok ⟨rfl, rfl, (h.erase path).modify (by simp) _⟩

theorem openFile (h : AgreeOn [path] fs gs) :
    SameResult [path] (fs.openFile path name) (gs.openFile path name) := by
  rw [FileSystem.openFile, FileSystem.openFile, h.directory_eq (by simp)]
  split
  · exact .error _
  · split
    · exact .ok ⟨rfl, rfl, h⟩
    · exact .ok ⟨rfl, rfl, h.put path _⟩

theorem eraseFile (h : AgreeOn [path] fs gs) :
    SameResult [path] (fs.erase path name) (gs.erase path name) := by
  rw [FileSystem.erase, FileSystem.erase, h.directory_eq (by simp)]
  split
  · exact .error _
  · split
    · exact .error _
    · exact .ok ⟨rfl, rfl, h.put path _⟩

theorem write (h : AgreeOn [path] fs gs) :
    SameResult [path] (fs.write path name content) (gs.write path name content) := by
  rw [FileSystem.write, FileSystem.write, h.directory_eq (by simp)]
  split
  · exact .error _
  · exact .ok ⟨rfl, rfl, h.put path _⟩

theorem settle {α : Type} {result other : Except FsError (Outcome FileSystem α)}
    (h : AgreeOn places fs gs) (hresult : SameResult places result other) (answer : α → Answer) :
    SameOn places (fs.settle answer result) (gs.settle answer other) := by
  cases hresult with
  | error e => exact ⟨rfl, rfl, h⟩
  | ok hsame =>
    exact ⟨congrArg (fun value => Except.ok (answer value)) hsame.value, hsame.events, hsame.state⟩

/-- What an operation does is decided in its footprint. -/
theorem perform {op : Operation} (h : AgreeOn op.footprint fs gs) :
    SameOn op.footprint (fs.perform op) (gs.perform op) := by
  cases op with
  | makeDirectory parent name => exact h.settle h.makeDirectory .path
  | removeDirectory path => exact h.settle h.removeDirectory fun _ => .done
  | openFile path name => exact h.settle h.openFile .file
  | erase path name => exact h.settle h.eraseFile fun _ => .done
  | write path name content => exact h.settle h.write fun _ => .done
  | list path =>
    refine ⟨?_, rfl, h⟩
    simp only [FileSystem.perform, FileSystem.list, h.directory_eq (List.mem_singleton_self path)]
  | content path name =>
    refine ⟨?_, rfl, h⟩
    simp only [FileSystem.perform, FileSystem.content,
      h.directory_eq (List.mem_singleton_self path)]
  | contains path =>
    refine ⟨?_, rfl, h⟩
    simp only [FileSystem.perform, h.contains_eq (List.mem_singleton_self path)]

end AgreeOn

/-! ## Two operations -/

variable {op other : Operation}

/-- An operation does the same before and after one with a disjoint footprint. -/
theorem sameOn_perform (h : op.footprint.Disjoint other.footprint) (fs : FileSystem) :
    SameOn other.footprint ((fs.perform op).state.perform other) (fs.perform other) :=
  AgreeOn.perform fun _ hpath => directory?_perform fun hmem => h hmem hpath

/-- An operation changes no directory outside its footprint, and if another one has a disjoint
footprint, then in either order both answer and report the same and lead to the same file system. -/
theorem perform_comm (fs : FileSystem) (op : Operation) :
    (∀ path, path ∉ op.footprint → (fs.perform op).state.directory? path = fs.directory? path) ∧
    ∀ other : Operation, op.footprint.Disjoint other.footprint →
      let first := fs.perform op
      let second := fs.perform other
      let opLast := second.state.perform op
      let otherLast := first.state.perform other
      opLast.value = first.value ∧ otherLast.value = second.value ∧
        opLast.events = first.events ∧ otherLast.events = second.events ∧
        opLast.state = otherLast.state := by
  refine ⟨fun path hpath => directory?_perform hpath, fun other h => ?_⟩
  intro first second opLast otherLast
  have hop : SameOn op.footprint opLast first := sameOn_perform (List.Disjoint.symm h) fs
  have hother : SameOn other.footprint otherLast second := sameOn_perform h fs
  refine ⟨hop.value, hother.value, hop.events, hother.events, ext_directory? fun path => ?_⟩
  by_cases hpath : path ∈ op.footprint
  · calc opLast.state.directory? path
        = first.state.directory? path := hop.state path hpath
      _ = otherLast.state.directory? path := (directory?_perform (h hpath)).symm
  · calc opLast.state.directory? path
        = second.state.directory? path := directory?_perform hpath
      _ = otherLast.state.directory? path := ?_
    by_cases hother' : path ∈ other.footprint
    · exact (hother.state path hother').symm
    · rw [directory?_perform hother', directory?_perform hother', directory?_perform hpath]

/-- A directory is made below `/home/` and another one removed from the root, in either order. -/
theorem perform_comm_docs :
    let make : Operation := .makeDirectory "/home/" "docs"
    let remove : Operation := .removeDirectory "/var/"
    let made := startup.state.perform make
    let removed := startup.state.perform remove
    make.footprint.Disjoint remove.footprint ∧
      made.value = .ok (.path "/home/docs/") ∧ removed.value = .ok .done ∧
      (removed.state.perform make).value = .ok (.path "/home/docs/") ∧
      (made.state.perform remove).value = .ok .done ∧
      (removed.state.perform make).state = (made.state.perform remove).state := by
  intro make remove made removed
  have hapart : ∀ path ∈ make.footprint, path ∉ remove.footprint := by decide
  have hdisjoint : make.footprint.Disjoint remove.footprint := fun path => hapart path
  have hmade : made.value = .ok (.path "/home/docs/") := rfl
  have hremoved : removed.value = .ok .done := rfl
  obtain ⟨hmake, hremove, -, -, hstate⟩ := (perform_comm startup.state make).2 remove hdisjoint
  exact ⟨hdisjoint, hmade, hremoved, hmake.trans hmade, hremove.trans hremoved, hstate⟩

end MemShell.FileSystem
