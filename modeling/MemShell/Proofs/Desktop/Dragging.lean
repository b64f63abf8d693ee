import MemShell.Desktop
import MemShell.Proofs.Geometry.Exact

/-!
# Drags without memory

A move of the pointer puts what is dragged to a place that is computed from the pointer and from
what the drag leaves alone: the offset at which the window is held and its size, or its corner when
it is resized. So a later move overwrites an earlier one (`pointerMoved_pointerMoved`), clamped or
not, and after many moves all is as after the last one (`follow_concat`). On exact numbers the
offset cancels out against the pointer (`Geometry.offset_moved`), so the window goes the way that
the pointer goes, wherever that leaves it in the viewport. `drag_memoryless` puts both together.
-/

namespace MemShell.Desktop

open MemShell.Geometry

section Moves

variable {K : Type} [Coordinate K]

/-- The pointer goes to several places, one after the other, each in the viewport of that moment. -/
def follow (d : Desktop K) (moves : List (Point K × Size K)) : Desktop K :=
  moves.foldl (fun d move => d.pointerMoved move.1 move.2) d

/-- A move overwrites the one before it. -/
theorem pointerMoved_pointerMoved (d : Desktop K) (pointer next : Point K)
    (viewport seen : Size K) :
    (d.pointerMoved pointer viewport).pointerMoved next seen = d.pointerMoved next seen := by
  unfold pointerMoved
  cases hdrag : d.drag with
  | none => simp only [hdrag]
  | some target =>
    cases target with
    | icon index =>
      -- Where there is no icon of the index nothing happens, the second time as the first time.
      simp only [List.modify_modify_eq]
      rfl
    | window grab => rfl
    | resize => rfl

theorem follow_concat (d : Desktop K) (moves : List (Point K × Size K)) (last : Point K × Size K) :
    d.follow (moves ++ [last]) = d.pointerMoved last.1 last.2 := by
  induction moves generalizing d with
  | nil => rfl
  | cons move moves ih =>
    calc d.follow (move :: moves ++ [last])
        = (d.pointerMoved move.1 move.2).follow (moves ++ [last]) := rfl
      _ = (d.pointerMoved move.1 move.2).pointerMoved last.1 last.2 := ih _
      _ = d.pointerMoved last.1 last.2 := pointerMoved_pointerMoved ..

end Moves

/-- A window that is held at `q` goes the way that the pointer goes from there. -/
theorem windowPos_grabWindow (d : Desktop Rat) {viewport : Size Rat} (q : Point Rat)
    {way : Point Rat} (h : Inside (d.windowPos.moved way) d.windowSize viewport) :
    ((d.grabWindow q).pointerMoved (q.moved way) viewport).windowPos = d.windowPos.moved way := by
  calc ((d.grabWindow q).pointerMoved (q.moved way) viewport).windowPos
      = intoViewport (offset (q.moved way) (offset q d.windowPos)) d.windowSize viewport := rfl
    _ = intoViewport (d.windowPos.moved way) d.windowSize viewport := by rw [offset_moved]
    _ = d.windowPos.moved way := intoViewport_of_inside h

/-- Whatever is dragged, an icon, one that is not there, the window or its handle, after any moves
all is as after the last one alone. And a window in the viewport that is held at `q` does not stir
while the pointer is at `q`, and is `way` off once the pointer is `way` off, if that leaves it in
the viewport, whatever the moves in between. -/
theorem drag_memoryless :
    (∀ (K : Type) [Coordinate K] (d : Desktop K) (moves : List (Point K × Size K))
        (last : Point K × Size K),
      d.follow (moves ++ [last]) = d.pointerMoved last.1 last.2) ∧
    ∀ (d : Desktop Rat) (viewport : Size Rat) (q : Point Rat),
      Inside d.windowPos d.windowSize viewport →
        ((d.grabWindow q).pointerMoved q viewport).windowPos = d.windowPos ∧
        ∀ (way : Point Rat), Inside (d.windowPos.moved way) d.windowSize viewport →
          ∀ moves : List (Point Rat × Size Rat),
            ((d.grabWindow q).follow (moves ++ [(q.moved way, viewport)])).windowPos =
              d.windowPos.moved way := by
  refine ⟨fun K _ d moves last => d.follow_concat moves last, fun d viewport q h => ⟨?_, ?_⟩⟩
  · have hstill : ∀ p : Point Rat, p.moved ⟨0, 0⟩ = p := by simp [Point.moved]
    rw [← hstill d.windowPos] at h
    have hheld := d.windowPos_grabWindow q h
    rwa [hstill, hstill] at hheld
  · intro way hway moves
    rw [follow_concat]
    exact d.windowPos_grabWindow q hway

/-- A window that was pulled against three sides of the viewport ends where the pointer leaves
it. -/
theorem drag_memoryless_edges :
    let viewport : Size Rat := ⟨800, 600⟩
    let d := ((start viewport []).openWindow "photos").state
    let q : Point Rat := ⟨130, 90⟩
    let way : Point Rat := ⟨1 / 2, -80⟩
    let moves := [(⟨-500, 300⟩, viewport), (⟨900, 900⟩, viewport)]
    Inside d.windowPos d.windowSize viewport ∧
      Inside (d.windowPos.moved way) d.windowSize viewport ∧
      ((d.grabWindow q).follow moves).windowPos = ⟨480, 360⟩ ∧
      ((d.grabWindow q).pointerMoved q viewport).windowPos = d.windowPos ∧
      ((d.grabWindow q).follow (moves ++ [(q.moved way, viewport)])).windowPos =
        d.windowPos.moved way ∧
      (d.grabIcon 3).follow (moves ++ [(q, viewport)]) =
        (d.grabIcon 3).pointerMoved q viewport := by
  intro viewport d q way moves
  have hinside : Inside d.windowPos d.windowSize viewport := by decide +kernel
  have hmoved : Inside (d.windowPos.moved way) d.windowSize viewport := by decide +kernel
  have hpulled : ((d.grabWindow q).follow moves).windowPos = ⟨480, 360⟩ := by decide +kernel
  obtain ⟨hlast, hheld⟩ := drag_memoryless
  obtain ⟨hstill, hway⟩ := hheld d viewport q hinside
  exact ⟨hinside, hmoved, hpulled, hstill, hway way hmoved moves, hlast Rat (d.grabIcon 3) moves _⟩

end MemShell.Desktop
