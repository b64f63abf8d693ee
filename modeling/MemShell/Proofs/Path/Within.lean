import MemShell.Proofs.Path.Canonical

/-!
# Ancestors

`isWithin` compares texts, where the relation of a directory to those above it is meant. On
canonical paths the two agree (`isWithin_iff`): a canonical path ends in a slash, so what follows it
in the text of another path starts a new segment (`segments_append`) and is a way further down
(`eq_append_iff`). A directory whose name merely goes on where the name of another one ends is never
within that one.
-/

namespace MemShell.Path

variable {Good : String → Prop} {path ancestor : String}

/-- The text of a canonical path ends in a slash. -/
theorem IsCanonical.exists_toList_eq (h : IsCanonical Good path) :
    ∃ text, path.toList = text ++ ['/'] := by
  rcases h.eq_root_or_child with rfl | ⟨dir, name, -, -, rfl⟩
  · exact ⟨[], rfl⟩
  · exact ⟨dir.toList ++ name.toList, by simp [Path.child]⟩

/-- What follows a canonical path in a text has segments of its own. -/
theorem IsCanonical.segments_append (h : IsCanonical Good path) (rest : String) :
    segments (path ++ rest) = segments path ++ segments rest := by
  obtain ⟨text, htext⟩ := h.exists_toList_eq
  have hslash : isSlash '/' = true := rfl
  have hpath : segments path = (Text.runs isSlash text).map String.ofList := by
    rw [segments, htext, Text.runs_append_sep hslash, Text.runs_nil, List.append_nil]
  have happend : (path ++ rest).toList = text ++ '/' :: rest.toList := by
    rw [String.toList_append, htext, List.append_assoc, List.singleton_append]
  rw [hpath, segments, happend, Text.runs_append_sep hslash, List.map_append, segments]

/-- The way down through the given names. -/
def way (names : List String) : String := String.join (names.map (· ++ "/"))

/-- More names lead further down. -/
theorem ofSegments_append (names more : List String) :
    ofSegments (names ++ more) = ofSegments names ++ way more := by
  apply String.toList_injective
  simp [ofSegments, way, List.flatMap_map]

/-- What follows a canonical path in the text of another one is a way down. -/
theorem IsCanonical.eq_append_iff (hpath : IsCanonical IsSegment path)
    (hancestor : IsCanonical IsSegment ancestor) {rest : String} :
    path = ancestor ++ rest ↔
      ∃ names, segments path = segments ancestor ++ names ∧ rest = way names := by
  have hway : ∀ {names}, segments path = segments ancestor ++ names →
      path = ancestor ++ way names := by
    intro names hnames
    rw [← hpath.ofSegments_segments, hnames, ofSegments_append, hancestor.ofSegments_segments]
  constructor
  · intro heq
    have hsegments : segments path = segments ancestor ++ segments rest := by
      rw [heq, hancestor.segments_append]
    have htail := heq.symm.trans (hway hsegments)
    exact ⟨segments rest, hsegments, (String.append_right_inj ancestor).1 htail⟩
  · rintro ⟨names, hnames, rfl⟩
    exact hway hnames

/-- As texts are ordered, a child never comes before its parent. -/
theorem le_child (dir name : String) : dir ≤ child dir name := by
  have hprefix := @List.le_append_left Char _ _ dir.toList (name.toList ++ ['/'])
  have hchild : (child dir name).toList = dir.toList ++ (name.toList ++ ['/']) := by
    simp [child]
  rw [← hchild] at hprefix
  exact hprefix

theorem isWithin_iff_exists : isWithin path ancestor = true ↔ ∃ rest, path = ancestor ++ rest := by
  rw [isWithin, List.isPrefixOf_iff_prefix]
  constructor
  · rintro ⟨rest, hrest⟩
    exact ⟨String.ofList rest, String.toList_injective (by simp [hrest])⟩
  · rintro ⟨rest, rfl⟩
    exact ⟨rest.toList, by simp⟩

/-- A canonical path is within another one exactly if it goes through all of its names first. -/
theorem isWithin_iff (hpath : IsCanonical IsSegment path)
    (hancestor : IsCanonical IsSegment ancestor) :
    isWithin path ancestor = true ↔ segments ancestor <+: segments path := by
  rw [isWithin_iff_exists]
  constructor
  · rintro ⟨rest, hrest⟩
    obtain ⟨names, hnames, -⟩ := (hpath.eq_append_iff hancestor).1 hrest
    exact ⟨names, hnames.symm⟩
  · rintro ⟨names, hnames⟩
    exact ⟨way names, (hpath.eq_append_iff hancestor).2 ⟨names, hnames.symm, rfl⟩⟩

/-- A name that starts like another one does not make its directory lie within the other. -/
example : isWithin "/homes/" "/home/" = false ∧ isWithin "/home/docs/" "/home/" = true := by decide

end MemShell.Path
