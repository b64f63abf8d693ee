import MemShell.Path

/-!
# Canonical paths

The index of a file system knows directories by their canonical paths only, so what a path
operation does to canonical paths is what it does to directories. A canonical path is determined
by its segments (`IsCanonical.ofSegments_segments`), it is the root or the child of a canonical
path (`IsCanonical.eq_root_or_child`), and `join`, `parent` and `lastName` make and take apart
children (`join_eq_child`, `parent_child`, `lastName_child`). `child_inj` says that children of
different places or names never meet.
-/

namespace MemShell.Path

/-- `path` is the canonical path through names that satisfy `Good`. -/
def IsCanonical (Good : String → Prop) (path : String) : Prop :=
  ∃ names, (∀ name ∈ names, Good name) ∧ path = ofSegments names

/-- A name that a walk goes down by: a segment that is neither `.` nor `..`. -/
def IsName (name : String) : Prop := IsSegment name ∧ name ≠ "." ∧ name ≠ ".."

/-- `dir` followed by `name` and a slash: where the child `name` of a canonical `dir` lives. -/
def child (dir name : String) : String := dir ++ name ++ "/"

theorem IsName.isSegment {name : String} (h : IsName name) : IsSegment name := h.1

variable {Good : String → Prop}

theorem IsCanonical.mono {Better : String → Prop} {path : String}
    (hGood : ∀ name, Better name → Good name) (h : IsCanonical Better path) :
    IsCanonical Good path := by
  obtain ⟨names, hnames, rfl⟩ := h
  exact ⟨names, fun name hname => hGood name (hnames name hname), rfl⟩

theorem isCanonical_root : IsCanonical Good root :=
  ⟨[], by simp, ofSegments_nil.symm⟩

/-- One more name puts the name and a slash at the end of the text. -/
theorem ofSegments_append_singleton (names : List String) (name : String) :
    ofSegments (names ++ [name]) = child (ofSegments names) name := by
  apply String.toList_injective
  simp [ofSegments, child]

theorem IsCanonical.child {dir name : String} (h : IsCanonical Good dir) (hname : Good name) :
    IsCanonical Good (child dir name) := by
  obtain ⟨names, hnames, rfl⟩ := h
  refine ⟨names ++ [name], fun other hother => ?_, (ofSegments_append_singleton names name).symm⟩
  rcases List.mem_append.1 hother with hother | hother
  · exact hnames other hother
  · rw [List.mem_singleton.1 hother]
    exact hname

/-! ## Segments of canonical paths -/

/-- A canonical path is determined by its segments. -/
theorem IsCanonical.ofSegments_segments {path : String} (h : IsCanonical IsSegment path) :
    ofSegments (segments path) = path := by
  obtain ⟨names, hnames, rfl⟩ := h
  rw [segments_ofSegments hnames]

/-- The segments of a canonical path are of the kind that it was made of. -/
theorem IsCanonical.of_mem_segments {path : String} (hGood : ∀ name, Good name → IsSegment name)
    (h : IsCanonical Good path) : ∀ name ∈ segments path, Good name := by
  obtain ⟨names, hnames, rfl⟩ := h
  rwa [segments_ofSegments fun name hname => hGood name (hnames name hname)]

/-- So the canonical paths are those that survive being taken apart. -/
theorem isCanonical_iff {path : String} :
    IsCanonical IsSegment path ↔ ofSegments (segments path) = path := by
  refine ⟨IsCanonical.ofSegments_segments, fun h => ?_⟩
  exact ⟨segments path, fun name hname => isSegment_of_mem_segments hname, h.symm⟩

theorem ofSegments_inj {names others : List String} (hnames : ∀ name ∈ names, IsSegment name)
    (hothers : ∀ name ∈ others, IsSegment name) :
    ofSegments names = ofSegments others ↔ names = others := by
  refine ⟨fun h => ?_, congrArg ofSegments⟩
  rw [← segments_ofSegments hnames, h, segments_ofSegments hothers]

theorem segments_child {dir name : String} (hdir : IsCanonical IsSegment dir)
    (hname : IsSegment name) : segments (child dir name) = segments dir ++ [name] := by
  obtain ⟨names, hnames, rfl⟩ := hdir
  rw [← ofSegments_append_singleton, segments_ofSegments hnames, segments_ofSegments]
  intro other hother
  rcases List.mem_append.1 hother with hother | hother
  · exact hnames other hother
  · rw [List.mem_singleton.1 hother]
    exact hname

/-- A canonical path is the root or the child of a canonical path. -/
theorem IsCanonical.eq_root_or_child {path : String} (h : IsCanonical Good path) :
    path = root ∨ ∃ dir name, IsCanonical Good dir ∧ Good name ∧ path = Path.child dir name := by
  obtain ⟨names, hnames, rfl⟩ := h
  rcases List.eq_nil_or_concat names with rfl | ⟨init, last, rfl⟩
  · exact .inl ofSegments_nil
  · rw [List.concat_eq_append] at hnames ⊢
    refine .inr ⟨ofSegments init, last, ⟨init, fun name hname => ?_, rfl⟩, ?_, ?_⟩
    · exact hnames name (List.mem_append_left _ hname)
    · exact hnames last (by simp)
    · exact ofSegments_append_singleton init last

/-! ## Children -/

/-- Children of different places, or of different names, live at different paths. -/
theorem child_inj {dir dir' name name' : String} (hdir : IsCanonical IsSegment dir)
    (hdir' : IsCanonical IsSegment dir') (hname : IsSegment name) (hname' : IsSegment name') :
    child dir name = child dir' name' ↔ dir = dir' ∧ name = name' := by
  refine ⟨fun h => ?_, by rintro ⟨rfl, rfl⟩; rfl⟩
  have hsegments := congrArg segments h
  rw [segments_child hdir hname, segments_child hdir' hname'] at hsegments
  obtain ⟨hinit, hlast⟩ := List.append_inj' hsegments rfl
  refine ⟨?_, List.singleton_inj.1 hlast⟩
  rw [← hdir.ofSegments_segments, ← hdir'.ofSegments_segments, hinit]

theorem child_ne_root {dir name : String} (hdir : IsCanonical IsSegment dir)
    (hname : IsSegment name) : child dir name ≠ root := by
  intro h
  have hsegments := congrArg segments h
  rw [segments_child hdir hname, segments_root] at hsegments
  simp at hsegments

theorem child_ne_self {dir name : String} (hdir : IsCanonical IsSegment dir)
    (hname : IsSegment name) : child dir name ≠ dir := by
  intro h
  have hsegments := congrArg segments h
  rw [segments_child hdir hname] at hsegments
  simp at hsegments

theorem parent_child {dir name : String} (hdir : IsCanonical IsSegment dir)
    (hname : IsSegment name) : parent (child dir name) = dir := by
  rw [parent, segments_child hdir hname, List.dropLast_concat, hdir.ofSegments_segments]

theorem lastName_child {dir name : String} (hdir : IsCanonical IsSegment dir)
    (hname : IsSegment name) : lastName (child dir name) = name := by
  rw [lastName, segments_child hdir hname]
  simp

/-! ## Joining -/

/-- A segment has itself as its only segment, and it is no absolute path. -/
theorem segments_of_isSegment {name : String} (h : IsSegment name) :
    segments name = [name] ∧ isAbsolute name = false := by
  obtain ⟨hne, hslash⟩ := h
  have hfree : ∀ c ∈ name.toList, isSlash c = false := by
    intro c hc
    simp only [isSlash, beq_eq_false_iff_ne]
    rintro rfl
    exact hslash hc
  constructor
  · rw [segments, Text.runs_eq_singleton (by simpa using hne) hfree]
    simp
  · cases htext : name.toList with
    | nil => simp [isAbsolute, htext]
    | cons c cs => simp [isAbsolute, htext, hfree c (by simp [htext])]

/-- To join one segment is to take one step. -/
theorem join_eq_step (dir : String) {name : String} (h : IsSegment name) :
    join dir name = ofSegments (step (segments dir) name) := by
  obtain ⟨hsegments, habsolute⟩ := segments_of_isSegment h
  rw [join, resolve, habsolute, hsegments]
  rfl

/-- A name joined to a canonical directory leads to its child. -/
theorem join_eq_child {dir name : String} (hdir : IsCanonical IsSegment dir) (hname : IsName name) :
    join dir name = child dir name := by
  obtain ⟨hsegment, hdot, hdots⟩ := hname
  rw [join_eq_step dir hsegment, step, if_neg hdots, if_neg hdot, ofSegments_append_singleton,
    hdir.ofSegments_segments]

theorem isWithin_self (path : String) : isWithin path path = true :=
  List.isPrefixOf_iff_prefix.2 (List.prefix_refl _)

end MemShell.Path
