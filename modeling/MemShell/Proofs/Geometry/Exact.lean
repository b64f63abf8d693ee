import Mathlib.Algebra.Order.Field.Rat
import Mathlib.Tactic.Linarith
import Mathlib.Tactic.Ring
import MemShell.Geometry

/-!
# Layout on exact numbers

On rationals nothing is rounded and any two numbers are comparable, so the rules of the layout are
the ones of ordered arithmetic: `clamp` ends between its two ends (`clamp_mem`), and a box goes to a
place that leaves it in the viewport (`intoViewport_mem`), if there is room at all
(`atLeastZero_of_nonneg`), and to no other place than its own if it lies there already
(`intoViewport_of_inside`). A share of the room, whatever number it is given by, is a place with as
much room (`scattered_mem`).
-/

namespace MemShell

namespace Coordinate

@[simp] theorem ofNat_rat (n : Nat) : (ofNat n : Rat) = n := rfl

theorem clamp_mem {low high : Rat} (h : low ≤ high) (x : Rat) :
    low ≤ clamp low high x ∧ clamp low high x ≤ high := by
  unfold clamp
  split
  · exact ⟨le_refl low, h⟩
  · next hlow =>
    split
    · exact ⟨h, le_refl high⟩
    · next hhigh => exact ⟨not_lt.1 hlow, not_lt.1 hhigh⟩

/-- What lies between the ends is not moved. -/
theorem clamp_of_mem {low high x : Rat} (hlow : low ≤ x) (hhigh : x ≤ high) :
    clamp low high x = x := by
  rw [clamp, if_neg (not_lt.2 hlow), if_neg (not_lt.2 hhigh)]

/-- A number beyond the lower end is not raised. -/
theorem clamp_le_of_le {low x bound : Rat} (hlow : low ≤ bound) (high : Rat) (hx : x ≤ bound) :
    clamp low high x ≤ bound := by
  unfold clamp
  split
  · exact hlow
  · split
    · next hhigh => exact (le_of_lt hhigh).trans hx
    · exact hx

theorem atLeastZero_nonneg (x : Rat) : 0 ≤ atLeastZero x := by
  unfold atLeastZero
  split
  · next hx => exact le_of_lt hx
  · exact le_refl 0

theorem atLeastZero_of_nonneg {x : Rat} (h : 0 ≤ x) : atLeastZero x = x := by
  unfold atLeastZero
  split
  · rfl
  · next hx => exact le_antisymm h (not_lt.1 hx)

theorem atLeastZero_rat (x : Rat) : atLeastZero x = max x 0 := by
  unfold atLeastZero
  split
  · next hx => exact (max_eq_left (le_of_lt hx)).symm
  · next hx => exact (max_eq_right (not_lt.1 hx)).symm

/-- A share of a length is not longer than the length. -/
theorem mul_clamp_mem {length : Rat} (h : 0 ≤ length) (share : Rat) :
    0 ≤ length * clamp 0 1 share ∧ length * clamp 0 1 share ≤ length := by
  obtain ⟨hnonneg, hle⟩ := clamp_mem zero_le_one share
  exact ⟨mul_nonneg h hnonneg, mul_le_of_le_one_right h hle⟩

end Coordinate

/-- `p` after a move by `way`. -/
def Point.moved (p way : Point Rat) : Point Rat := ⟨p.x + way.x, p.y + way.y⟩

namespace Geometry

open Coordinate

theorem windowStart_rat : (windowStart : Point Rat) = ⟨120, 80⟩ := rfl

theorem windowStartSize_rat : (windowStartSize : Size Rat) = ⟨320, 240⟩ := rfl

theorem windowMin_rat : (windowMin : Size Rat) = ⟨200, 150⟩ := rfl

theorem windowMax_rat : (windowMax : Size Rat) = ⟨500, 400⟩ := rfl

theorem windowMin_le_windowMax :
    (windowMin : Size Rat).width ≤ (windowMax : Size Rat).width ∧
      (windowMin : Size Rat).height ≤ (windowMax : Size Rat).height := by
  rw [windowMin_rat, windowMax_rat]
  norm_num

/-- A box that is put into the viewport is not moved further than there is room. -/
theorem intoViewport_mem (pos : Point Rat) (box viewport : Size Rat) :
    (0 ≤ (intoViewport pos box viewport).x ∧
        (intoViewport pos box viewport).x ≤ (room box viewport).x) ∧
      0 ≤ (intoViewport pos box viewport).y ∧
        (intoViewport pos box viewport).y ≤ (room box viewport).y :=
  ⟨clamp_mem (atLeastZero_nonneg _) pos.x, clamp_mem (atLeastZero_nonneg _) pos.y⟩

theorem scattered_mem (viewport box : Size Rat) (share : Point Rat) :
    (0 ≤ (scattered viewport box share).x ∧
        (scattered viewport box share).x ≤ (room box viewport).x) ∧
      0 ≤ (scattered viewport box share).y ∧
        (scattered viewport box share).y ≤ (room box viewport).y := by
  have hx := mul_clamp_mem (atLeastZero_nonneg (viewport.width - box.width)) share.x
  have hy := mul_clamp_mem (atLeastZero_nonneg (viewport.height - box.height)) share.y
  rw [scattered, ofNat_rat, ofNat_rat, Nat.cast_zero, Nat.cast_one]
  exact ⟨hx, hy⟩

/-- The box with its corner at `pos` lies in the viewport. -/
structure Inside (pos : Point Rat) (box viewport : Size Rat) : Prop where
  across : 0 ≤ pos.x ∧ pos.x + box.width ≤ viewport.width
  down : 0 ≤ pos.y ∧ pos.y + box.height ≤ viewport.height

instance (pos : Point Rat) (box viewport : Size Rat) : Decidable (Inside pos box viewport) :=
  decidable_of_iff (_ ∧ _) ⟨fun h => ⟨h.1, h.2⟩, fun h => ⟨h.across, h.down⟩⟩

/-- A box that lies in the viewport stays where it is. -/
theorem intoViewport_of_inside {pos : Point Rat} {box viewport : Size Rat}
    (h : Inside pos box viewport) : intoViewport pos box viewport = pos := by
  obtain ⟨⟨hleft, hright⟩, htop, hbottom⟩ := h
  have hx : pos.x ≤ atLeastZero (viewport.width - box.width) := by
    rw [atLeastZero_of_nonneg (by linarith)]
    linarith
  have hy : pos.y ≤ atLeastZero (viewport.height - box.height) := by
    rw [atLeastZero_of_nonneg (by linarith)]
    linarith
  have hacross : clamp 0 (room box viewport).x pos.x = pos.x := clamp_of_mem hleft hx
  have hdown : clamp 0 (room box viewport).y pos.y = pos.y := clamp_of_mem htop hy
  rw [intoViewport, ofNat_rat, Nat.cast_zero, hacross, hdown]

/-- A pointer that moves by some way is seen from where it held the corner as the corner moved by
that way: the offset at which it held the corner cancels out. -/
theorem offset_moved (q corner way : Point Rat) :
    offset (q.moved way) (offset q corner) = corner.moved way := by
  simp only [offset, Point.moved, Point.mk.injEq]
  constructor
  · ring
  · ring

end Geometry

end MemShell
