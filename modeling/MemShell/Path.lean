import MemShell.Text.Runs

/-!
# Paths

A path is text. The canonical paths are the root, written as one slash, and for every other
directory its segments, each after a slash, with one more slash at the end: `/home/foo/`. Users
type and read other forms: relative targets, `.` and `..`, and the display form that drops the
last slash. `resolve` brings what a user types into canonical form, `display` goes back.

Nothing here asks whether a path exists. `segments_ofSegments` says that a canonical path has
exactly the segments that it was made of, and `isSegment_of_mem_segments` that any text, however
many slashes it holds, has segments that a canonical path can be made of.
-/

namespace MemShell.Path

open Text

def root : String := "/"

/-- The directory whose folders the desktop shows. -/
def home : String := "/home/"

def isSlash (c : Char) : Bool := c == '/'

/-- The names that a path goes through: its runs between slashes. -/
def segments (path : String) : List String :=
  (runs isSlash path.toList).map String.ofList

/-- The canonical path through the given names. -/
def ofSegments (names : List String) : String :=
  String.ofList ('/' :: names.flatMap fun name => name.toList ++ ['/'])

/-- One step of a walk: `..` goes up and stays at the root, `.` stays, a name goes down. -/
def step (place : List String) (name : String) : List String :=
  if name = ".." then place.dropLast else if name = "." then place else place ++ [name]

def isAbsolute (target : String) : Bool :=
  target.toList.head?.any isSlash

/-- Where `target` leads from `base`. A target that starts with a slash leads from the root. -/
def resolve (base target : String) : String :=
  let start := if isAbsolute target then [] else segments base
  ofSegments ((segments target).foldl step start)

/-- The directory above; the root is its own parent. -/
def parent (path : String) : String :=
  ofSegments (segments path).dropLast

/-- Where the child `name` of `dir` lives. -/
def join (dir name : String) : String :=
  resolve dir name

/-- The last name of a path, empty for the root. -/
def lastName (path : String) : String :=
  (segments path).getLastD ""

/-- The form for people: the root as it is, any other path without the slashes it ends in. -/
def display (path : String) : String :=
  if path = root then root else String.ofList (dropTrailing isSlash path.toList)

/-- `path` is `ancestor` or lies below it. On canonical paths the text of one begins with the
text of the other exactly if this is so, because both end in a slash. -/
def isWithin (path ancestor : String) : Bool :=
  ancestor.toList.isPrefixOf path.toList

/-! ## Segments of canonical paths -/

/-- A name that can stand between two slashes. -/
def IsSegment (name : String) : Prop := name ≠ "" ∧ '/' ∉ name.toList

@[simp] theorem segments_root : segments root = [] := by decide

@[simp] theorem ofSegments_nil : ofSegments [] = root := by decide

/-- What `ofSegments` writes behind its first slash. -/
theorem runs_flatMap_segments {names : List String} (h : ∀ name ∈ names, IsSegment name) :
    runs isSlash (names.flatMap fun name => name.toList ++ ['/']) = names.map String.toList := by
  induction names with
  | nil => rfl
  | cons name names ih =>
    obtain ⟨hne, hfree⟩ := h name (by simp)
    have hslash : isSlash '/' = true := by decide
    have hname : runs isSlash name.toList = [name.toList] := by
      refine runs_eq_singleton (by simpa using hne) fun c hc => ?_
      simp only [isSlash, beq_eq_false_iff_ne]
      rintro rfl
      exact hfree hc
    simp only [List.flatMap_cons, List.append_assoc, List.singleton_append, List.map_cons]
    rw [runs_append_sep hslash, hname, ih fun n hn => h n (by simp [hn])]
    rfl

/-- A canonical path has the segments that it was made of. -/
theorem segments_ofSegments {names : List String} (h : ∀ name ∈ names, IsSegment name) :
    segments (ofSegments names) = names := by
  have hslash : isSlash '/' = true := by decide
  rw [segments, ofSegments, String.toList_ofList, runs_cons_of_sep hslash,
    runs_flatMap_segments h, List.map_map]
  simp [Function.comp_def]

/-- The segments of any path can stand between slashes. -/
theorem isSegment_of_mem_segments {path name : String} (h : name ∈ segments path) :
    IsSegment name := by
  obtain ⟨run, hrun, rfl⟩ := List.mem_map.1 h
  constructor
  · intro hempty
    exact ne_nil_of_mem_runs hrun (by simpa using congrArg String.toList hempty)
  · intro hmem
    rw [String.toList_ofList] at hmem
    exact absurd (not_sep_of_mem_runs hrun hmem) (by decide)

end MemShell.Path
