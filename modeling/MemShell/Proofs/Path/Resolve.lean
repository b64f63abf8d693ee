import MemShell.Proofs.Path.Display

/-!
# Resolving targets

A target is a walk, and resolving it from some base leads to where the walk ends. A walk can stop on
the way and go on from there, so resolving one target after another is resolving the two with a
slash between them (`resolve_resolve`). That is so from any base, as its segments are taken as they
stand. From a canonical base every walk ends at a canonical path (`IsCanonical.resolve`), since it
goes down by names only, and a canonical path is a walk from the root that leads to itself
(`IsCanonical.resolve_eq`).
-/

namespace MemShell.Path

variable {path base target name : String}

/-! ## Targets as text -/

theorem segments_slash (target other : String) :
    segments (target ++ "/" ++ other) = segments target ++ segments other := by
  have hslash : isSlash '/' = true := rfl
  have hcut : (target ++ "/" ++ other).toList = target.toList ++ '/' :: other.toList := by
    simp
  rw [segments, hcut, Text.runs_append_sep hslash, List.map_append, segments, segments]

/-- What stands behind a target does not make it absolute, unless there is nothing before it. -/
theorem isAbsolute_append (h : target ≠ "") (other : String) :
    isAbsolute (target ++ other) = isAbsolute target := by
  cases htext : target.toList with
  | nil => exact absurd (String.toList_eq_nil_iff.1 htext) h
  | cons c cs => simp [isAbsolute, htext]

theorem isAbsolute_ofSegments (names : List String) : isAbsolute (ofSegments names) = true := by
  simp [isAbsolute, ofSegments, isSlash]

/-! ## Walks -/

/-- A step leads down by a name or along names that were gone before. -/
theorem mem_step {place : List String} {next : String} (h : name ∈ step place next) :
    name ∈ place ∨ name = next ∧ next ≠ "." ∧ next ≠ ".." := by
  unfold step at h
  split at h
  · exact .inl (List.dropLast_subset place h)
  · next hdots =>
    split at h
    · exact .inl h
    · next hdot =>
      rcases List.mem_append.1 h with h | h
      · exact .inl h
      · exact .inr ⟨List.mem_singleton.1 h, hdot, hdots⟩

theorem mem_foldl_step {names place : List String} (h : name ∈ names.foldl step place) :
    name ∈ place ∨ name ∈ names ∧ name ≠ "." ∧ name ≠ ".." := by
  induction names generalizing place with
  | nil => exact .inl h
  | cons next names ih =>
    rcases ih h with h | ⟨hmem, hname⟩
    · rcases mem_step h with h | ⟨rfl, hname⟩
      · exact .inl h
      · exact .inr ⟨List.mem_cons_self, hname⟩
    · exact .inr ⟨List.mem_cons_of_mem next hmem, hname⟩

/-- Where a walk starts. -/
def source (base target : String) : List String :=
  if isAbsolute target then [] else segments base

theorem resolve_eq (base target : String) :
    resolve base target = ofSegments ((segments target).foldl step (source base target)) := rfl

theorem segments_resolve (base target : String) :
    segments (resolve base target) = (segments target).foldl step (source base target) := by
  rw [resolve_eq]
  refine segments_ofSegments fun name hname => ?_
  rcases mem_foldl_step hname with hname | ⟨hname, -⟩
  · unfold source at hname
    split at hname
    · cases hname
    · exact isSegment_of_mem_segments hname
  · exact isSegment_of_mem_segments hname

/-! ## Laws -/

/-- Two walks after one another are one walk. -/
theorem resolve_resolve (htarget : target ≠ "") {next : String} (hnext : isAbsolute next = false) :
    resolve (resolve base target) next = resolve base (target ++ "/" ++ next) := by
  have hsource : source base (target ++ "/" ++ next) = source base target := by
    rw [source, source, String.append_assoc, isAbsolute_append htarget]
  have hmiddle : source (resolve base target) next =
      (segments target).foldl step (source base target) := by
    rw [source, hnext, if_neg Bool.false_ne_true, segments_resolve]
  rw [resolve_eq _ next, hmiddle, ← List.foldl_append, ← segments_slash, ← hsource, resolve_eq]

/-- From a canonical base every target leads to a canonical path. -/
theorem IsCanonical.resolve (h : IsCanonical IsName base) (target : String) :
    IsCanonical IsName (resolve base target) := by
  refine ⟨_, fun name hname => ?_, resolve_eq base target⟩
  rcases mem_foldl_step hname with hname | ⟨hname, hdot, hdots⟩
  · unfold source at hname
    split at hname
    · cases hname
    · exact h.of_mem_segments (fun _ => IsName.isSegment) name hname
  · exact ⟨isSegment_of_mem_segments hname, hdot, hdots⟩

/-- A canonical path leads to itself, from everywhere. -/
theorem IsCanonical.resolve_eq (h : IsCanonical IsName path) (base : String) :
    Path.resolve base path = path := by
  have hsegment : IsCanonical IsSegment path := h.mono fun _ => IsName.isSegment
  have hsource : source base path = [] := by
    rw [source, ← hsegment.ofSegments_segments, isAbsolute_ofSegments, if_pos rfl]
  rw [Path.resolve_eq, hsource, foldl_step_of_isName (h.of_mem_segments fun _ => IsName.isSegment),
    List.nil_append, hsegment.ofSegments_segments]

end MemShell.Path
