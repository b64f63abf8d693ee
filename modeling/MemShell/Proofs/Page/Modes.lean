import MemShell.Proofs.Page.Listeners

/-!
# Screens and modes

The view and the mode of a session are switched independently, by `startx` and the desktop's button
on the one hand and by `nano` and the editor's keys on the other. On the page they do not get out of
step, since the screen that is shown decides what can be heard. Between two events the page is
`Settled`: an editor is open only in the terminal view, and the screen is the one that the session
calls for. So is the page that is loaded, and so it is again after every event (`Settled.act`), and
with that after all that can be done to it (`modes_after`).
-/

namespace MemShell

namespace Session

theorem screenKind_eq_prompt_iff {s : Session} :
    s.screenKind = .prompt ↔ s.view = .terminal ∧ s.isEditing = false := by
  rw [screenKind]
  cases s.view <;> cases s.isEditing <;> simp

theorem screenKind_eq_editor_iff {s : Session} :
    s.screenKind = .editor ↔ s.view = .terminal ∧ s.isEditing = true := by
  rw [screenKind]
  cases s.view <;> cases s.isEditing <;> simp

theorem screenKind_eq_desktop_iff {s : Session} :
    s.screenKind = .desktop ↔ s.view = .desktop := by
  rw [screenKind]
  cases s.view <;> cases s.isEditing <;> simp

end Session

namespace Page

structure Settled (p : Page) : Prop where
  view : p.session.isEditing = true → p.session.view = .terminal
  screen : p.screen.kind = p.session.screenKind

variable {p : Page}

/-! ## Showing a screen -/

theorem mount_session (p : Page) (kind : ScreenKind) : (p.mount kind).1.session = p.session := by
  cases kind with
  | prompt => rfl
  | editor => rfl
  | desktop => rfl

theorem mount_screen (p : Page) (kind : ScreenKind) : (p.mount kind).1.screen.kind = kind := by
  cases kind with
  | prompt => rfl
  | editor => rfl
  | desktop => rfl

theorem mount_quiet (p : Page) (kind : ScreenKind) : Quiet (p.mount kind).2 := by
  cases kind with
  | prompt => exact quiet_nil
  | editor => exact quiet_nil.cons rfl
  | desktop => exact quiet_nil

/-- The page settles on the screen that the session calls for. -/
theorem settled_settle (h : p.session.isEditing = true → p.session.view = .terminal) :
    Settled p.settle.1 ∧ Quiet p.settle.2 := by
  rw [settle]
  split
  · next hscreen => exact ⟨⟨h, hscreen⟩, quiet_nil⟩
  · refine ⟨⟨?_, ?_⟩, p.mount_quiet _⟩
    · rw [mount_session]
      exact h
    · rw [mount_session]
      exact p.mount_screen _

/-- A new session is at the prompt in the terminal view. -/
theorem load_eq (browser : Browser) :
    load browser =
      (⟨(Terminal.start .standard).state, .prompt "", browser, some .input⟩,
        Page.events (Terminal.start .standard).events ++ []) := rfl

theorem settled_load (browser : Browser) : Settled (load browser).1 ∧ Quiet (load browser).2 := by
  rw [load_eq]
  refine ⟨⟨fun _ => rfl, rfl⟩, (quiet_events fun event hevent => ?_).append quiet_nil⟩
  have hstartup : event ∈ FileSystem.startup.events := hevent
  exact Event.isRefusal_of_isOfTree (FileSystem.tells_startup.isOfTree event hstartup)

/-! ## Events -/

/-- The screen of a settled page has the listeners that the session can bear. -/
theorem Settled.handling (h : Settled p) {heard : List Handler}
    (hheard : heard.count .promptKey ≤ p.markup.handlers.count .promptKey) : Handling heard p := by
  have hkind := h.screen
  cases hscreen : p.screen with
  | prompt draft =>
    rw [hscreen] at hkind
    obtain ⟨hview, hediting⟩ := Session.screenKind_eq_prompt_iff.1 hkind.symm
    have honce : p.markup.handlers.count .promptKey = 1 := by
      rw [handlers_markup_of_prompt hscreen]
      rfl
    exact .prompt hscreen h.view (hheard.trans honce.le) fun _ =>
      ⟨Session.isEditing_eq_false_iff.1 hediting, hview⟩
  | editor =>
    rw [hscreen] at hkind
    exact .editor hscreen (Session.screenKind_eq_editor_iff.1 hkind.symm).1
  | desktop d =>
    rw [hscreen] at hkind
    have hview := Session.screenKind_eq_desktop_iff.1 hkind.symm
    refine .desktop hscreen (Session.isEditing_eq_false_iff.1 ?_)
    rw [Bool.eq_false_iff]
    intro hediting
    rw [h.view hediting] at hview
    cases hview

theorem Settled.dispatch (h : Settled p) {name : String} {n : Nat} {lineage : List (Tag Handler)}
    (htarget : p.target? name n = some lineage) (o : Occurrence) :
    Settled (p.dispatch o lineage).1 ∧ Quiet (p.dispatch o lineage).2 := by
  have hhandling := h.handling (count_hearers_le htarget o.kind .promptKey)
  obtain ⟨⟨rest, hlast⟩, hquiet⟩ := hhandling.bubble (o := o)
  obtain ⟨hsettled, hmore⟩ := settled_settle hlast.view
  exact ⟨hsettled, hquiet.append hmore⟩

theorem Settled.act (h : Settled p) (action : Action) :
    Settled (p.act action).state ∧ Quiet (p.act action).value := by
  cases action with
  | occur occurrence name count =>
    rw [Page.act]
    split
    · exact ⟨h, quiet_nil⟩
    · next lineage htarget => exact h.dispatch htarget occurrence
  | elapse =>
    refine ⟨?_, quiet_nil⟩
    rw [Page.act, elapse]
    split
    · exact ⟨h.view, h.screen⟩
    · exact h
  | surround browser => exact ⟨⟨h.view, h.screen⟩, quiet_nil⟩

/-! ## Whole runs -/

theorem settled_after (browser : Browser) (actions : List Action) :
    Settled (after browser actions) :=
  Run.invariant (P := Settled) (fun _ action h => (h.act action).1) (settled_load browser).1 actions

/-- Whatever is done to the page, an editor is open only in the terminal view, exactly one of the
elements of the three screens is shown, the one that the session calls for, and the session refuses
neither a line nor a control input. -/
theorem modes_after (browser : Browser) (actions : List Action) :
    let p := after browser actions
    (p.session.isEditing = true → p.session.view = .terminal) ∧
      p.screen.kind = p.session.screenKind ∧
      (∀ (kind : ScreenKind) (n : Nat),
        p.target? kind.elementName n ≠ none ↔ kind = p.session.screenKind ∧ n = 0) ∧
      ∀ effects ∈ (load browser).2 :: Run.answers act (load browser).1 actions,
        (∀ line, .event (.lineRefused line) ∉ effects) ∧
          ∀ command, .event (.editorCommandRefused command) ∉ effects := by
  intro p
  have hsettled : Settled p := settled_after browser actions
  refine ⟨hsettled.view, hsettled.screen, fun kind n => ?_, fun effects heffects => ?_⟩
  · rw [target?, Markup.target?_ne_none_iff, count_markup, hsettled.screen]
    split
    · next hkind => simp [hkind]
    · next hkind => simp [hkind]
  · have hquiet : Quiet effects := by
      rcases List.mem_cons.1 heffects with rfl | heffects
      · exact (settled_load browser).2
      · exact Run.forall_mem_answers (P := Settled) (Q := Quiet) (fun _ action h => h.act action)
          (settled_load browser).1 actions effects heffects
    exact ⟨fun line hline => Bool.noConfusion (hquiet _ hline),
      fun command hcommand => Bool.noConfusion (hquiet _ hcommand)⟩

/-- Through the desktop and back into an editor that is opened twice. A second key behind the line
that opens the editor is not heard by the prompt any more. -/
theorem modes_after_reopened :
    let happens (kind key value : String) : Occurrence := ⟨kind, key, true, false, ⟨0, 0⟩, 0, value⟩
    let line (text : String) : List Action :=
      [.occur (happens "input" "" text) "input" 0, .occur (happens "keydown" "Enter" "") "input" 0]
    let actions : List Action :=
      line "startx" ++ [.occur (happens "click" "" "") "terminalButton" 0] ++ line "nano notes" ++
        [.occur (happens "keydown" "Enter" "") "input" 0,
          .occur (happens "keydown" "x" "") "textarea" 0] ++ line "nano notes"
    let p := after ⟨none, ⟨[], 0⟩, []⟩ actions
    p.session.isEditing = true ∧ p.session.view = .terminal ∧ p.screen.kind = .editor ∧
      p.target? "editor" 0 ≠ none ∧ p.target? "input" 0 = none ∧ p.target? "desktop" 0 = none ∧
      ∀ effects ∈ Run.answers act (load ⟨none, ⟨[], 0⟩, []⟩).1 actions,
        .event (.lineRefused "") ∉ effects := by
  intro happens line actions p
  have hediting : p.session.isEditing = true := by decide +kernel
  obtain ⟨hview, hscreen, hshown, hquiet⟩ := modes_after ⟨none, ⟨[], 0⟩, []⟩ actions
  have hterminal := hview hediting
  have hkind : p.session.screenKind = .editor :=
    Session.screenKind_eq_editor_iff.2 ⟨hterminal, hediting⟩
  have hhidden (kind : ScreenKind) (hother : kind ≠ .editor) :
      p.target? kind.elementName 0 = none := by
    by_contra htarget
    exact hother (((hshown kind 0).1 htarget).1.trans hkind)
  refine ⟨hediting, hterminal, hscreen.trans hkind, (hshown .editor 0).2 ⟨hkind.symm, rfl⟩,
    hhidden .prompt ?_, hhidden .desktop ?_, fun effects heffects => ?_⟩
  · exact ScreenKind.noConfusion
  · exact ScreenKind.noConfusion
  · exact (hquiet effects (List.mem_cons_of_mem _ heffects)).1 ""

end Page

end MemShell
