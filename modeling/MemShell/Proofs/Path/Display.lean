import MemShell.Proofs.Path.Canonical
import MemShell.Proofs.Text.Words

/-!
# The display form of a path

What is shown of a canonical path lacks its last slash. Nothing is lost by that: the display form
has the same segments (`segments_display`), it leads from the root, and a walk along names goes down
by each of them. So it resolves to the path that it shows, wherever it is read (`resolve_display`),
and as long as the names are words it can be typed as one argument of a command (`isWord_display`).
-/

namespace MemShell.Path

open Text (dropTrailing)

variable {Good : String → Prop} {path : String}

theorem segments_display (path : String) : segments (display path) = segments path := by
  rw [display]
  split
  · next hroot => rw [hroot]
  · rw [segments, String.toList_ofList, Text.runs_dropTrailing, segments]

/-- A canonical path starts with a slash, and only the root has nothing behind it. -/
theorem isAbsolute_display (h : IsCanonical IsSegment path) : isAbsolute (display path) = true := by
  rw [display]
  split
  · rfl
  · next hroot =>
    obtain ⟨slashes, hpath, hslashes⟩ := Text.exists_dropTrailing isSlash path.toList
    rw [isAbsolute, String.toList_ofList]
    cases hkept : dropTrailing isSlash path.toList with
    | nil =>
      rw [hkept, List.nil_append] at hpath
      have hnone : segments path = [] := by
        rw [segments, hpath, Text.runs_eq_nil_iff.2 hslashes, List.map_nil]
      rw [← h.ofSegments_segments, hnone, ofSegments_nil] at hroot
      exact absurd rfl hroot
    | cons c cs =>
      rw [hkept, ← h.ofSegments_segments, ofSegments, String.toList_ofList,
        List.cons_append] at hpath
      rw [← (List.cons.inj hpath).1]
      rfl

/-- A walk along names goes down by each of them. -/
theorem foldl_step_of_isName {names : List String} (h : ∀ name ∈ names, IsName name)
    (place : List String) : names.foldl step place = place ++ names := by
  induction names generalizing place with
  | nil => rw [List.append_nil]; rfl
  | cons name names ih =>
    obtain ⟨⟨-, hdot, hdots⟩, hrest⟩ := List.forall_mem_cons.1 h
    rw [List.foldl_cons, step, if_neg hdots, if_neg hdot, ih hrest, List.append_assoc,
      List.singleton_append]

/-- What is shown of a path leads to the path, from everywhere. -/
theorem resolve_display (h : IsCanonical IsName path) (base : String) :
    resolve base (display path) = path := by
  have hsegment : IsCanonical IsSegment path := h.mono fun _ => IsName.isSegment
  have hnames := h.of_mem_segments fun _ => IsName.isSegment
  rw [resolve, isAbsolute_display hsegment, segments_display, if_pos rfl,
    foldl_step_of_isName hnames, List.nil_append, hsegment.ofSegments_segments]

/-- What is shown of a path through words has no blanks. -/
theorem isWord_display (hGood : ∀ name, Good name → Text.IsWord name)
    (hsegment : ∀ name, Good name → IsSegment name) (h : IsCanonical Good path) :
    Text.IsWord (display path) := by
  have hblank : ∀ c ∈ path.toList, Text.isBlank c = false := by
    obtain ⟨names, hnames, rfl⟩ := h
    intro c hc
    simp only [ofSegments, String.toList_ofList, List.mem_cons, List.mem_flatMap, List.mem_append,
      List.not_mem_nil, or_false] at hc
    obtain rfl | ⟨name, hname, hc | rfl⟩ := hc
    · rfl
    · exact (hGood name (hnames name hname)).not_blank c hc
    · rfl
  constructor
  · intro hempty
    have habsolute := isAbsolute_display (h.mono hsegment)
    rw [hempty] at habsolute
    cases habsolute
  · intro c hc
    apply hblank
    obtain ⟨slashes, hpath, -⟩ := Text.exists_dropTrailing isSlash path.toList
    rw [display] at hc
    split at hc
    · next hroot => rwa [hroot]
    · rw [hpath]
      exact List.mem_append_left _ (by simpa using hc)

/-- A path that ends in a name and not in a slash is shown as it is. -/
theorem display_append {dir name : String} (hne : name ≠ "") (hfree : '/' ∉ name.toList) :
    display (dir ++ name) = dir ++ name := by
  rw [display]
  split
  · next hroot => rw [hroot]
  · obtain ⟨init, last, hname⟩ := List.eq_nil_or_concat name.toList |>.resolve_left
      (mt String.toList_eq_nil_iff.1 hne)
    have hlast : isSlash last = false := by
      rw [isSlash, beq_eq_false_iff_ne]
      rintro rfl
      exact hfree (by simp [hname])
    have hkept : dropTrailing isSlash (dir ++ name).toList = (dir ++ name).toList := by
      simp [dropTrailing, hname, hlast]
    rw [hkept, String.ofList_toList]

end MemShell.Path
