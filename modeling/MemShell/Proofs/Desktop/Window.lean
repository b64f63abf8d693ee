import MemShell.Proofs.Desktop.Action
import MemShell.Proofs.Geometry.Exact

/-!
# The folder window stays on the screen

A drag puts the window into the viewport as large as it is, but a resize looks at the least and the
greatest size only and not at the viewport. What keeps the far corner in the viewport is that a
window inside it has room for the least size at its place, and that the pointer, which pulls the
corner, is inside as well (`Fits.resized`). Both axes obey the same rules, so the argument is made
along one of them. `window_inside` says it of every run on exact numbers.
-/

namespace MemShell.Desktop

open MemShell.Coordinate MemShell.Geometry

/-- A stretch of an axis begins and ends within the limit and has at least its least length. -/
structure Fits (least limit pos length : Rat) : Prop where
  begins : 0 ≤ pos
  ends : pos + length ≤ limit
  least : least ≤ length

namespace Fits

variable {least limit pos length : Rat}

/-- At any other place with room for it the stretch fits too. -/
theorem dragged (h : Fits least limit pos length) {place : Rat}
    (hplace : 0 ≤ place ∧ place ≤ atLeastZero (limit - length)) :
    Fits least limit place length := by
  have hroom : 0 ≤ limit - length := by linarith [h.begins, h.ends]
  rw [atLeastZero_of_nonneg hroom] at hplace
  refine ⟨hplace.1, ?_, h.least⟩
  linarith [hplace.2]

/-- The end of the stretch follows a pointer within the limit. -/
theorem resized (h : Fits least limit pos length) {most pointer : Rat} (hrange : least ≤ most)
    (hpointer : pointer ≤ limit) : Fits least limit pos (clamp least most (pointer - pos)) := by
  -- The smallest window at this place ends inside, because the present one does.
  have hleast : least ≤ limit - pos := by linarith [h.ends, h.least]
  have hpulled : pointer - pos ≤ limit - pos := by linarith
  refine ⟨h.begins, ?_, (clamp_mem hrange _).1⟩
  linarith [clamp_le_of_le hleast most hpulled]

end Fits

/-- The window lies in the viewport, and is not smaller than windows can be made. -/
structure WindowInside (viewport : Size Rat) (d : Desktop Rat) : Prop where
  across : Fits (windowMin : Size Rat).width viewport.width d.windowPos.x d.windowSize.width
  down : Fits (windowMin : Size Rat).height viewport.height d.windowPos.y d.windowSize.height

/-- The pointer moves inside the viewport, and the viewport is always the same. -/
def Action.StaysIn (viewport : Size Rat) : Action Rat → Prop
  | .movePointer pointer seen =>
    seen = viewport ∧ (0 ≤ pointer.x ∧ pointer.x ≤ viewport.width) ∧
      0 ≤ pointer.y ∧ pointer.y ≤ viewport.height
  | .createFolder _ _ _ | .openWindow _ | .closeWindow | .grabIcon _ | .grabWindow _ | .grabHandle
  | .release => True

namespace WindowInside

variable {viewport : Size Rat} {d : Desktop Rat}

/-- A viewport of 440 by 320 has room for a window where windows appear. -/
theorem of_start (hwidth : 440 ≤ viewport.width) (hheight : 320 ≤ viewport.height)
    (hpos : d.windowPos = windowStart) (hsize : d.windowSize = windowStartSize) :
    WindowInside viewport d := by
  constructor
  · rw [hpos, hsize, windowStart_rat, windowStartSize_rat, windowMin_rat]
    exact ⟨by norm_num, by linarith, by norm_num⟩
  · rw [hpos, hsize, windowStart_rat, windowStartSize_rat, windowMin_rat]
    exact ⟨by norm_num, by linarith, by norm_num⟩

/-- Only the place and the size of the window matter. -/
theorem congr (h : WindowInside viewport d) {next : Desktop Rat}
    (hpos : next.windowPos = d.windowPos) (hsize : next.windowSize = d.windowSize) :
    WindowInside viewport next := by
  constructor
  · rw [hpos, hsize]
    exact h.across
  · rw [hpos, hsize]
    exact h.down

theorem pointerMoved (h : WindowInside viewport d) {pointer : Point Rat}
    (hx : pointer.x ≤ viewport.width) (hy : pointer.y ≤ viewport.height) :
    WindowInside viewport (d.pointerMoved pointer viewport) := by
  unfold Desktop.pointerMoved
  split
  · exact h
  · exact h.congr rfl rfl
  · next grab _ =>
    obtain ⟨hacross, hdown⟩ := intoViewport_mem (offset pointer grab) d.windowSize viewport
    exact ⟨h.across.dragged hacross, h.down.dragged hdown⟩
  · obtain ⟨hwidth, hheight⟩ := windowMin_le_windowMax
    exact ⟨h.across.resized hwidth hx, h.down.resized hheight hy⟩

theorem act {shown : Desktop Rat × Session} (h : WindowInside viewport shown.1)
    (hwidth : 440 ≤ viewport.width) (hheight : 320 ≤ viewport.height) {action : Action Rat}
    (hstays : action.StaysIn viewport) :
    WindowInside viewport (Desktop.act shown action).state.1 := by
  obtain ⟨d, s⟩ := shown
  cases action with
  | createFolder seen name share =>
    rw [Desktop.act, createFolder]
    cases s.createFolder name with
    | ok made => exact h.congr rfl rfl
    | error e => exact h
  | openWindow name => exact of_start hwidth hheight rfl rfl
  | movePointer pointer seen =>
    obtain ⟨rfl, ⟨-, hx⟩, -, hy⟩ := hstays
    exact h.pointerMoved hx hy
  | closeWindow | grabIcon | grabWindow | grabHandle | release => exact h.congr rfl rfl

end WindowInside

/-- In a viewport with room for a new window, whatever is opened, dragged and resized with a pointer
that stays in the viewport, the window does not leave it at any side. -/
theorem window_inside {viewport : Size Rat} (hwidth : 440 ≤ viewport.width)
    (hheight : 320 ≤ viewport.height) (folders : List (String × Point Rat)) (s : Session)
    {actions : List (Action Rat)} (hactions : ∀ action ∈ actions, action.StaysIn viewport) :
    let d := (Run.state act (start viewport folders, s) actions).1
    (0 ≤ d.windowPos.x ∧ d.windowPos.x + d.windowSize.width ≤ viewport.width) ∧
      0 ≤ d.windowPos.y ∧ d.windowPos.y + d.windowSize.height ≤ viewport.height := by
  intro d
  have hstart : WindowInside viewport (start viewport folders) :=
    .of_start hwidth hheight rfl rfl
  have hstep : ∀ (shown : Desktop Rat × Session) (action : Action Rat), action.StaysIn viewport →
      WindowInside viewport shown.1 → WindowInside viewport (act shown action).state.1 :=
    fun _ _ hstays h => h.act hwidth hheight hstays
  have h : WindowInside viewport d := Run.invariant_of_allowed hstep hstart hactions
  exact ⟨⟨h.across.begins, h.across.ends⟩, h.down.begins, h.down.ends⟩

/-- The smallest viewport, and a window that is dragged into its corner and then pulled over all of
it, while an icon is moved in between. -/
theorem window_inside_filled :
    let viewport : Size Rat := ⟨440, 320⟩
    let actions : List (Action Rat) :=
      [.openWindow "photos", .grabWindow ⟨130, 90⟩, .movePointer ⟨0, 0⟩ viewport, .grabIcon 0,
        .movePointer ⟨440, 0⟩ viewport, .grabHandle, .movePointer ⟨440, 320⟩ viewport, .release,
        .closeWindow]
    let d := (Run.state act (start viewport [("photos", ⟨1 / 2, 1 / 2⟩)],
      (Session.start .standard).state) actions).1
    (440 ≤ viewport.width ∧ 320 ≤ viewport.height ∧
        ∀ action ∈ actions, action.StaysIn viewport) ∧
      (d.windowPos = ⟨0, 0⟩ ∧ d.windowSize = ⟨440, 320⟩) ∧
      (0 ≤ d.windowPos.x ∧ d.windowPos.x + d.windowSize.width ≤ viewport.width) ∧
        0 ≤ d.windowPos.y ∧ d.windowPos.y + d.windowSize.height ≤ viewport.height := by
  intro viewport actions d
  have hactions : ∀ action ∈ actions, action.StaysIn viewport := by
    simp [actions, viewport, Action.StaysIn]
  have hfilled : d.windowPos = ⟨0, 0⟩ ∧ d.windowSize = ⟨440, 320⟩ := by decide +kernel
  exact ⟨⟨le_rfl, le_rfl, hactions⟩, hfilled,
    window_inside le_rfl le_rfl [("photos", ⟨1 / 2, 1 / 2⟩)] _ hactions⟩

end MemShell.Desktop
