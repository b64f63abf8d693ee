import Mathlib.Data.List.Infix
import MemShell.Proofs.Path.Resolve
import MemShell.Proofs.Path.Within

/-!
# Staying below a directory

What `isWithin` tells of two canonical paths, a comparison of their texts, is how their names
compare (`isWithin_iff`). So it is an order, and no directory is within a sibling
(`isWithin_sibling`), even if one name is how the other one begins.

A relative target leads to a place within its base as long as it does not climb above the base on
the way, `StaysBelow`. At each step the walk stands at the base or at some names below it; a step up
drops the last of these names, and there is one to drop since as yet there have been no more steps
up than down (`foldl_step_append`).
-/

namespace MemShell.Path

/-- The walk goes down at this name. -/
def goesDown (name : String) : Bool := name != "." && name != ".."

/-- On no part of the way that starts at the base are there more steps up than down. -/
def StaysBelow (target : String) : Prop :=
  ∀ walked, walked <+: segments target → walked.count ".." ≤ walked.countP goesDown

instance (target : String) : Decidable (StaysBelow target) :=
  decidable_of_iff
    (∀ walked ∈ (segments target).inits, walked.count ".." ≤ walked.countP goesDown)
    (forall_congr' fun walked => imp_congr_left (List.mem_inits walked (segments target)))

variable {path ancestor base target : String}

/-! ## Ancestors -/

theorem isWithin_iff_toList : isWithin path ancestor = true ↔ ancestor.toList <+: path.toList :=
  List.isPrefixOf_iff_prefix

theorem isWithin_trans {between : String} (h : isWithin path between = true)
    (habove : isWithin between ancestor = true) : isWithin path ancestor = true := by
  rw [isWithin_iff_toList] at h habove ⊢
  exact habove.trans h

theorem isWithin_antisymm (h : isWithin path ancestor = true)
    (hback : isWithin ancestor path = true) : path = ancestor := by
  rw [isWithin_iff_toList] at h hback
  exact String.toList_injective (hback.eq_of_length_le h.length_le)

/-- No directory is within a sibling. -/
theorem isWithin_sibling {dir name other : String} (hdir : IsCanonical IsSegment dir)
    (hname : IsSegment name) (hother : IsSegment other) (hne : other ≠ name) :
    isWithin (child dir other) (child dir name) = false := by
  rw [Bool.eq_false_iff, Ne, isWithin_iff (hdir.child hother) (hdir.child hname),
    segments_child hdir hother, segments_child hdir hname, List.prefix_append_right_inj]
  intro hlead
  exact hne (List.singleton_inj.1 (hlead.eq_of_length rfl)).symm

/-! ## Walks below the base -/

/-- A walk that stands at some names below the base stays below it as long as there are no more
steps up than these names and the steps down. -/
theorem foldl_step_append {names : List String} (start deeper : List String)
    (h : ∀ walked, walked <+: names →
      walked.count ".." ≤ deeper.length + walked.countP goesDown) :
    ∃ final, names.foldl step (start ++ deeper) = start ++ final := by
  induction names generalizing deeper with
  | nil => exact ⟨deeper, rfl⟩
  | cons name names ih =>
    have hrest : ∀ walked, walked <+: names →
        (name :: walked).count ".." ≤ deeper.length + (name :: walked).countP goesDown :=
      fun walked hwalked => h _ (List.cons_prefix_cons.2 ⟨rfl, hwalked⟩)
    rw [List.foldl_cons, step]
    by_cases hdots : name = ".."
    · subst hdots
      have hdeeper : deeper ≠ [] := by
        rintro rfl
        exact absurd (hrest [] List.nil_prefix) (by decide)
      rw [if_pos rfl, List.dropLast_append_of_ne_nil hdeeper]
      refine ih deeper.dropLast fun walked hwalked => ?_
      have hcount := hrest walked hwalked
      have hlength := List.length_pos_iff.2 hdeeper
      rw [List.count_cons_self, List.countP_cons_of_neg (by decide)] at hcount
      rw [List.length_dropLast]
      omega
    · rw [if_neg hdots]
      by_cases hdot : name = "."
      · subst hdot
        rw [if_pos rfl]
        refine ih deeper fun walked hwalked => ?_
        have hcount := hrest walked hwalked
        rwa [List.count_cons_of_ne (by decide), List.countP_cons_of_neg (by decide)] at hcount
      · rw [if_neg hdot, List.append_assoc]
        refine ih (deeper ++ [name]) fun walked hwalked => ?_
        have hcount := hrest walked hwalked
        have hdown : goesDown name = true := by simp [goesDown, hdot, hdots]
        rw [List.count_cons_of_ne hdots, List.countP_cons_of_pos hdown] at hcount
        rw [List.length_append, List.length_singleton]
        omega

/-- A relative target that stays below the base leads to a place within it. -/
theorem isWithin_resolve (h : IsCanonical IsSegment base) (hrelative : isAbsolute target = false)
    (htarget : StaysBelow target) : isWithin (resolve base target) base = true := by
  have hresolved : IsCanonical IsSegment (resolve base target) := by
    rw [isCanonical_iff, segments_resolve, resolve_eq]
  obtain ⟨final, hfinal⟩ := foldl_step_append (segments base) [] fun walked hwalked => by
    rw [List.length_nil, Nat.zero_add]
    exact htarget walked hwalked
  rw [List.append_nil] at hfinal
  rw [isWithin_iff hresolved h, segments_resolve, source, hrelative, if_neg Bool.false_ne_true,
    hfinal]
  exact List.prefix_append ..

/-- On canonical paths `isWithin` holds exactly if the names of the ancestor are how the names of
the path begin. It is reflexive, antisymmetric and transitive, a directory whose name only begins
with the name of a sibling is not within the sibling, and a relative target that never climbs above
the base leads to a place within the base. The names may be any text without slashes, so those that
no directory can have are allowed too. -/
theorem isWithin_order :
    (∀ path ancestor, IsCanonical IsSegment path → IsCanonical IsSegment ancestor →
      (isWithin path ancestor = true ↔ segments ancestor <+: segments path)) ∧
    (∀ path, isWithin path path = true) ∧
    (∀ path ancestor, isWithin path ancestor = true → isWithin ancestor path = true →
      path = ancestor) ∧
    (∀ path between ancestor, isWithin path between = true → isWithin between ancestor = true →
      isWithin path ancestor = true) ∧
    (∀ dir name more, IsCanonical IsSegment dir → IsSegment name → IsSegment (name ++ more) →
      more ≠ "" → isWithin (child dir (name ++ more)) (child dir name) = false) ∧
    ∀ base target, IsCanonical IsSegment base → isAbsolute target = false → StaysBelow target →
      isWithin (resolve base target) base = true := by
  refine ⟨fun path ancestor => isWithin_iff, isWithin_self, fun path ancestor => isWithin_antisymm,
    fun path between ancestor => isWithin_trans, ?_, fun base target => isWithin_resolve⟩
  intro dir name more hdir hname hlonger hmore
  refine isWithin_sibling hdir hname hlonger fun heq => hmore ?_
  exact String.append_eq_left_iff.1 heq

/-- `/home/docs/` is below `/home/`, and `/homes/` is not. The target comes back to `/home/` on its
way, but it does not climb above. -/
theorem isWithin_order_docs :
    let target := "a/b/.././../docs//"
    (IsCanonical IsSegment "/home/docs/" ∧ IsCanonical IsSegment "/home/" ∧
      isWithin "/home/docs/" "/home/" = true) ∧
    (IsSegment "home" ∧ IsSegment ("home" ++ "s") ∧
      isWithin (child root ("home" ++ "s")) (child root "home") = false) ∧
    (isAbsolute target = false ∧ StaysBelow target ∧ resolve "/home/" target = "/home/docs/" ∧
      isWithin (resolve "/home/" target) "/home/" = true) := by
  intro target
  have hdocs : IsCanonical IsSegment "/home/docs/" := isCanonical_iff.2 (by decide)
  have hhome : IsCanonical IsSegment "/home/" := isCanonical_iff.2 (by decide)
  have hname : IsSegment "home" := ⟨by decide, by decide⟩
  have hlonger : IsSegment ("home" ++ "s") := ⟨by decide, by decide⟩
  have hrelative : isAbsolute target = false := by decide
  have hbelow : StaysBelow target := by decide
  obtain ⟨hiff, -, -, -, hsibling, hwalk⟩ := isWithin_order
  exact ⟨⟨hdocs, hhome, (hiff _ _ hdocs hhome).2 (by decide)⟩,
    ⟨hname, hlonger, hsibling root "home" "s" isCanonical_root hname hlonger (by decide)⟩,
    hrelative, hbelow, by decide, hwalk "/home/" target hhome hrelative hbelow⟩

end MemShell.Path
