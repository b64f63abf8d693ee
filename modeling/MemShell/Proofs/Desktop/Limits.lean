import MemShell.Proofs.Desktop.Action
import MemShell.Proofs.Geometry.Exact

/-!
# The limits of the layout

On exact numbers and in a viewport that stays the same, the layout keeps to its limits whatever is
done, with the pointer far outside, with any numbers for the shares and with no room for as much as
an icon: the icons lie in the viewport or at its edge, the window is neither too small nor too large
and does not begin outside at the left or at the top. Each place where something is put keeps to the
limits by itself (`Limited.addIcon`, `Limited.pointerMoved`), so no order of changes leaves them.
-/

namespace MemShell.Desktop

open MemShell.Coordinate MemShell.Geometry

/-- An icon lies where there is room for it. -/
def IconInRoom (viewport : Size Rat) (icon : Icon Rat) : Prop :=
  (0 ≤ icon.pos.x ∧ icon.pos.x ≤ (room iconSize viewport).x) ∧
    0 ≤ icon.pos.y ∧ icon.pos.y ≤ (room iconSize viewport).y

/-- The icons and the window keep to their limits. -/
structure Limited (viewport : Size Rat) (d : Desktop Rat) : Prop where
  icons : ∀ icon ∈ d.icons, IconInRoom viewport icon
  width : (windowMin : Size Rat).width ≤ d.windowSize.width ∧
    d.windowSize.width ≤ (windowMax : Size Rat).width
  height : (windowMin : Size Rat).height ≤ d.windowSize.height ∧
    d.windowSize.height ≤ (windowMax : Size Rat).height
  corner : 0 ≤ d.windowPos.x ∧ 0 ≤ d.windowPos.y

/-- The viewport is the given one whenever it is asked for. -/
def Change.SeenIn (viewport : Size Rat) : Change Rat → Prop
  | .act (.createFolder seen _ _) | .act (.movePointer _ seen) | .addIcon seen _ _ =>
    seen = viewport
  | .act (.openWindow _) | .act .closeWindow | .act (.grabIcon _) | .act (.grabWindow _)
  | .act .grabHandle | .act .release => True

/-- What all members have and a changed member keeps, all have after a change of one. -/
private theorem forall_mem_modify {α : Type} {P : α → Prop} {f : α → α} (hf : ∀ a, P a → P (f a))
    {l : List α} (h : ∀ a ∈ l, P a) (index : Nat) : ∀ a ∈ l.modify index f, P a := by
  induction l generalizing index with
  | nil => simp
  | cons a l ih =>
    obtain ⟨ha, hl⟩ := List.forall_mem_cons.1 h
    cases index with
    | zero => exact List.forall_mem_cons.2 ⟨hf a ha, hl⟩
    | succ index => exact List.forall_mem_cons.2 ⟨ha, ih hl index⟩

theorem windowStart_limited :
    ((windowMin : Size Rat).width ≤ (windowStartSize : Size Rat).width ∧
        (windowStartSize : Size Rat).width ≤ (windowMax : Size Rat).width) ∧
      ((windowMin : Size Rat).height ≤ (windowStartSize : Size Rat).height ∧
        (windowStartSize : Size Rat).height ≤ (windowMax : Size Rat).height) ∧
      0 ≤ (windowStart : Point Rat).x ∧ 0 ≤ (windowStart : Point Rat).y := by
  rw [windowMin_rat, windowMax_rat, windowStartSize_rat, windowStart_rat]
  norm_num

namespace Limited

variable {viewport : Size Rat} {d : Desktop Rat}

theorem start (viewport : Size Rat) (folders : List (String × Point Rat)) :
    Limited viewport (start viewport folders) := by
  obtain ⟨hwidth, hheight, hcorner⟩ := windowStart_limited
  refine ⟨fun icon hicon => ?_, hwidth, hheight, hcorner⟩
  obtain ⟨⟨name, share⟩, -, rfl⟩ := List.mem_map.1 hicon
  exact scattered_mem viewport iconSize share

theorem addIcon (h : Limited viewport d) (name : String) (share : Point Rat) :
    Limited viewport (d.addIcon viewport name share) := by
  refine ⟨fun icon hicon => ?_, h.width, h.height, h.corner⟩
  rcases List.mem_append.1 hicon with hold | hnew
  · exact h.icons icon hold
  · rw [List.mem_singleton.1 hnew]
    exact scattered_mem viewport iconSize share

theorem openWindow (h : Limited viewport d) (name : String) :
    Limited viewport (d.openWindow name).state := by
  obtain ⟨hwidth, hheight, hcorner⟩ := windowStart_limited
  exact ⟨h.icons, hwidth, hheight, hcorner⟩

theorem pointerMoved (h : Limited viewport d) (pointer : Point Rat) :
    Limited viewport (d.pointerMoved pointer viewport) := by
  unfold Desktop.pointerMoved
  split
  · exact h
  · next index _ =>
    refine ⟨forall_mem_modify ?_ h.icons index, h.width, h.height, h.corner⟩
    exact fun _ _ => intoViewport_mem _ iconSize viewport
  · next grab _ =>
    obtain ⟨⟨hleft, -⟩, htop, -⟩ := intoViewport_mem (offset pointer grab) d.windowSize viewport
    exact ⟨h.icons, h.width, h.height, hleft, htop⟩
  · obtain ⟨hwidth, hheight⟩ := windowMin_le_windowMax
    exact ⟨h.icons, clamp_mem hwidth _, clamp_mem hheight _, h.corner⟩

theorem act {shown : Desktop Rat × Session} (h : Limited viewport shown.1) {action : Action Rat}
    (hseen : (Change.act action).SeenIn viewport) :
    Limited viewport (Desktop.act shown action).state.1 := by
  obtain ⟨d, s⟩ := shown
  cases action with
  | createFolder seen name share =>
    obtain rfl : seen = viewport := hseen
    rw [Desktop.act, Desktop.createFolder]
    cases s.createFolder name with
    | ok made => exact h.addIcon name share
    | error e => exact h
  | openWindow name => exact h.openWindow name
  | movePointer pointer seen =>
    obtain rfl : seen = viewport := hseen
    exact h.pointerMoved pointer
  | closeWindow | grabIcon | grabWindow | grabHandle | release =>
    exact ⟨h.icons, h.width, h.height, h.corner⟩

theorem change {shown : Desktop Rat × Session} (h : Limited viewport shown.1) {next : Change Rat}
    (hseen : next.SeenIn viewport) : Limited viewport (Desktop.change shown next).state.1 := by
  cases next with
  | act action => exact h.act hseen
  | addIcon seen name share =>
    obtain rfl : seen = viewport := hseen
    exact h.addIcon name share

end Limited

/-- However large or small the viewport is, a desktop that begins in it with any shares of the room
and goes through any changes has each icon where there is room for it, or in the corner if there is
none, a window that is neither smaller nor larger than windows can be made, and no window that
begins left of the viewport or above it. -/
theorem layout_limited {viewport : Size Rat} (folders : List (String × Point Rat)) (s : Session)
    {changes : List (Change Rat)} (hchanges : ∀ next ∈ changes, next.SeenIn viewport) :
    let d := (Run.state change (start viewport folders, s) changes).1
    (∀ icon ∈ d.icons,
        (0 ≤ icon.pos.x ∧ icon.pos.x ≤ max (viewport.width - 100) 0) ∧
          0 ≤ icon.pos.y ∧ icon.pos.y ≤ max (viewport.height - 100) 0) ∧
      ((200 ≤ d.windowSize.width ∧ d.windowSize.width ≤ 500) ∧
        150 ≤ d.windowSize.height ∧ d.windowSize.height ≤ 400) ∧
      0 ≤ d.windowPos.x ∧ 0 ≤ d.windowPos.y := by
  intro d
  have hstep : ∀ (shown : Desktop Rat × Session) (next : Change Rat), next.SeenIn viewport →
      Limited viewport shown.1 → Limited viewport (change shown next).state.1 :=
    fun _ _ hseen h => h.change hseen
  have h : Limited viewport d :=
    Run.invariant_of_allowed hstep (Limited.start viewport folders) hchanges
  refine ⟨fun icon hicon => ?_, ⟨h.width, h.height⟩, h.corner⟩
  rw [← atLeastZero_rat, ← atLeastZero_rat]
  exact h.icons icon hicon

/-- In a viewport that is narrower than an icon, with shares that are no shares: one icon is thrown
far to the left and below, another one is added, and the window is pulled in and out and away. -/
theorem layout_limited_narrow :
    let viewport : Size Rat := ⟨90, 350⟩
    let changes : List (Change Rat) :=
      [.act (.grabIcon 0), .act (.movePointer ⟨-1000, 7000⟩ viewport), .act .release,
        .addIcon viewport "videos" ⟨7, -3⟩, .act (.openWindow "videos"), .act .grabHandle,
        .act (.movePointer ⟨-60, 9000⟩ viewport), .act (.grabWindow ⟨121, 81⟩),
        .act (.movePointer ⟨500, -500⟩ viewport),
        .act (.createFolder viewport "music" ⟨1 / 3, 2⟩)]
    let d := (Run.state change (start viewport [("photos", ⟨-3, 1 / 2⟩)],
      (Session.start .standard).state) changes).1
    (∀ next ∈ changes, next.SeenIn viewport) ∧
      (d.icons = [⟨"photos", ⟨0, 250⟩⟩, ⟨"videos", ⟨0, 0⟩⟩, ⟨"music", ⟨0, 250⟩⟩] ∧
        d.windowSize = ⟨200, 400⟩ ∧ d.windowPos = ⟨0, 0⟩) ∧
      (∀ icon ∈ d.icons,
        (0 ≤ icon.pos.x ∧ icon.pos.x ≤ max (viewport.width - 100) 0) ∧
          0 ≤ icon.pos.y ∧ icon.pos.y ≤ max (viewport.height - 100) 0) ∧
      ((200 ≤ d.windowSize.width ∧ d.windowSize.width ≤ 500) ∧
        150 ≤ d.windowSize.height ∧ d.windowSize.height ≤ 400) ∧
      0 ≤ d.windowPos.x ∧ 0 ≤ d.windowPos.y := by
  intro viewport changes d
  have hchanges : ∀ next ∈ changes, next.SeenIn viewport := by
    simp [changes, viewport, Change.SeenIn]
  have hend : d.icons = [⟨"photos", ⟨0, 250⟩⟩, ⟨"videos", ⟨0, 0⟩⟩, ⟨"music", ⟨0, 250⟩⟩] ∧
      d.windowSize = ⟨200, 400⟩ ∧ d.windowPos = ⟨0, 0⟩ := by
    decide +kernel
  exact ⟨hchanges, hend, layout_limited [("photos", ⟨-3, 1 / 2⟩)] _ hchanges⟩

end MemShell.Desktop
