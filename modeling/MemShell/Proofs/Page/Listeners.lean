import MemShell.Proofs.Page.Action
import MemShell.Proofs.Page.Look
import MemShell.Proofs.Session.Refusal
import MemShell.Proofs.Session.View

/-!
# Listeners and the session

While an event is handled the screen stays, whatever becomes of the session, and the screen decides
what the listeners can do to the session. `Handling` says what holds in between: on the prompt at
most one listener is still to hear of a key, which may open the editor; in the editor the view
stays; and on the desktop no editor is opened. Each listener keeps this and none is refused by the
session (`Handling.handle`), so this is so until the event stops or all have acted
(`Handling.bubble`).
-/

namespace MemShell

namespace Page

/-- The effects report no refusal. -/
def Quiet (effects : List Effect) : Prop :=
  ∀ event, .event event ∈ effects → event.isRefusal = false

theorem quiet_nil : Quiet [] := by
  intro event hevent
  cases hevent

theorem Quiet.append {effects more : List Effect} (h : Quiet effects) (hmore : Quiet more) :
    Quiet (effects ++ more) := by
  intro event hevent
  rcases List.mem_append.1 hevent with hevent | hevent
  · exact h event hevent
  · exact hmore event hevent

theorem quiet_events {events : List Event} (h : ∀ event ∈ events, event.isRefusal = false) :
    Quiet (Page.events events) := by
  intro event hevent
  obtain ⟨other, hother, heq⟩ := List.mem_map.1 hevent
  cases heq
  exact h _ hother

/-- An effect that is no report of the session changes nothing. -/
theorem Quiet.cons {effect : Effect} {effects : List Effect} (h : Quiet effects)
    (heffect : effect.event?.all fun event => !event.isRefusal) : Quiet (effect :: effects) := by
  intro event hevent
  rcases List.mem_cons.1 hevent with rfl | hevent
  · simpa [Effect.event?] using heffect
  · exact h event hevent

/-! ## Listeners -/

/-- What holds while an event is handled, where `rest` are the listeners that have yet to act. -/
inductive Handling : List Handler → Page → Prop
  | prompt {rest : List Handler} {p : Page} {draft : String} (screen : p.screen = .prompt draft)
      (view : p.session.isEditing = true → p.session.view = .terminal)
      (once : rest.count .promptKey ≤ 1)
      (ready : .promptKey ∈ rest → p.session.mode = .prompting ∧ p.session.view = .terminal) :
      Handling rest p
  | editor {rest : List Handler} {p : Page} (screen : p.screen = .editor)
      (view : p.session.view = .terminal) : Handling rest p
  | desktop {rest : List Handler} {p : Page} {d : Desktop Float} (screen : p.screen = .desktop d)
      (mode : p.session.mode = .prompting) : Handling rest p

variable {p : Page} {o : Occurrence}

theorem Handling.view {rest : List Handler} (h : Handling rest p)
    (hediting : p.session.isEditing = true) : p.session.view = .terminal := by
  cases h with
  | prompt screen view once ready => exact view hediting
  | editor screen view => exact view
  | desktop screen mode =>
    rw [Session.isEditing_of_prompting mode] at hediting
    cases hediting

/-- Nobody hears of the key any more. -/
theorem Handling.prompt_of_not_mem {rest : List Handler} (draft : String)
    (screen : p.screen = .prompt draft)
    (view : p.session.isEditing = true → p.session.view = .terminal)
    (hrest : .promptKey ∉ rest) : Handling rest p :=
  .prompt screen view (by rw [List.count_eq_zero_of_not_mem hrest]; exact Nat.zero_le 1)
    fun hmem => absurd hmem hrest

theorem submit_handling {draft : String} (hscreen : p.screen = .prompt draft)
    (hmode : p.session.mode = .prompting) (hview : p.session.view = .terminal) (line : String)
    {rest : List Handler} (hrest : .promptKey ∉ rest) :
    Handling rest (p.submit line).1 ∧ Quiet (p.submit line).2 := by
  constructor
  · refine .prompt_of_not_mem draft hscreen (fun hediting => ?_) hrest
    exact (Session.view_submit_of_isEditing hmode hediting).trans hview
  · exact quiet_events fun _ hevent => Session.isRefusal_submit hmode hevent

theorem recallOlder_handling {draft : String} (hscreen : p.screen = .prompt draft)
    (hview : p.session.view = .terminal) {rest : List Handler} (hrest : .promptKey ∉ rest) :
    Handling rest (p.recallOlder draft).1 ∧ Quiet (p.recallOlder draft).2 := by
  unfold recallOlder
  split
  · next terminal hstep =>
    have hsession : terminal.session = p.session := congrArg (·.1.session) hstep.symm
    refine ⟨.prompt_of_not_mem draft hscreen (fun _ => ?_) hrest, quiet_nil⟩
    exact (congrArg Session.view hsession).trans hview
  · next terminal line hstep =>
    have hsession : terminal.session = p.session := congrArg (·.1.session) hstep.symm
    refine ⟨.prompt_of_not_mem line rfl (fun _ => ?_) hrest, quiet_nil.cons rfl⟩
    exact (congrArg Session.view hsession).trans hview

theorem recallNewer_handling (hview : p.session.view = .terminal) {rest : List Handler}
    (hrest : .promptKey ∉ rest) : Handling rest p.recallNewer :=
  .prompt_of_not_mem ((p.terminal.step 1).2.getD "") rfl (fun _ => hview) hrest

/-- A key at the prompt may submit a line, and the listener that hears it is the only one. -/
theorem promptKey_handling {draft : String} (hscreen : p.screen = .prompt draft)
    (hmode : p.session.mode = .prompting) (hview : p.session.view = .terminal)
    {rest : List Handler} (hrest : .promptKey ∉ rest) :
    Handling rest (p.promptKey draft o).1 ∧ Quiet (p.promptKey draft o).2 := by
  unfold promptKey
  split
  · exact submit_handling (p := p.setDraft "") rfl hmode hview draft hrest
  · split
    · obtain ⟨hnext, hquiet⟩ := recallOlder_handling hscreen hview hrest
      exact ⟨hnext, hquiet.cons rfl⟩
    · split
      · exact ⟨recallNewer_handling hview hrest, quiet_nil.cons rfl⟩
      · split
        · exact ⟨.prompt_of_not_mem "" rfl (fun _ => hview) hrest, quiet_nil⟩
        · split
          · obtain ⟨hnext, hquiet⟩ := submit_handling hscreen hmode hview "clear" hrest
            exact ⟨hnext, hquiet.cons rfl⟩
          · exact ⟨.prompt_of_not_mem draft hscreen (fun _ => hview) hrest, quiet_nil⟩

theorem handle_promptKey {draft : String} (hscreen : p.screen = .prompt draft) :
    p.handle o .promptKey = p.promptKey draft o := by
  unfold handle
  rw [hscreen]

/-- The other listeners do not reach the session from the prompt. -/
theorem handle_of_prompt {draft : String} (hscreen : p.screen = .prompt draft) {handler : Handler}
    (hhandler : handler ≠ .promptKey) :
    (∃ next, (p.handle o handler).1.screen = .prompt next) ∧
      (p.handle o handler).1.session = p.session ∧ (p.handle o handler).2 = [] := by
  unfold handle
  rw [hscreen]
  cases handler with
  | promptKey => exact absurd rfl hhandler
  | focusInput => exact ⟨⟨draft, rfl⟩, rfl, rfl⟩
  | promptTyped => exact ⟨⟨o.value, rfl⟩, rfl, rfl⟩
  | editorTyped | editorKey | movePointer | release | openMenu | closeMenu
  | backToTerminal | pressIcon | openFolder | pressTitle | pressHandle | closeWindow | newFolder
  | absorb => exact ⟨⟨draft, hscreen⟩, rfl, rfl⟩

/-- In the editor the session is acted on through the editor, and it stays in its view. -/
theorem handle_of_editor (hscreen : p.screen = .editor) (handler : Handler) :
    (p.handle o handler).1.screen = .editor ∧
      (p.handle o handler).1.session.view = p.session.view ∧ Quiet (p.handle o handler).2 := by
  unfold handle
  rw [hscreen]
  cases handler with
  | editorTyped => exact ⟨hscreen, p.session.editorInput_view o.value, quiet_nil⟩
  | editorKey =>
    dsimp only
    unfold editorKey
    split
    · refine ⟨hscreen, p.session.editorKey_view true o.key, Quiet.append ?_ ?_⟩
      · exact quiet_events fun _ hevent => Session.isRefusal_editorKey hevent
      · split
        · exact (quiet_nil.cons rfl).cons rfl
        · exact quiet_nil
    · exact ⟨hscreen, rfl, quiet_nil⟩
  | focusInput | promptTyped | promptKey | movePointer | release | openMenu | closeMenu
  | backToTerminal | pressIcon | openFolder | pressTitle | pressHandle | closeWindow | newFolder
  | absorb => exact ⟨hscreen, rfl, quiet_nil⟩

theorem handle_of_desktop {d : Desktop Float} (hscreen : p.screen = .desktop d)
    (handler : Handler) : p.handle o handler = p.handleDesktop d o handler := by
  unfold handle
  rw [hscreen]

theorem newFolder_spec {d : Desktop Float} (hscreen : ∃ shown, p.screen = .desktop shown) :
    (∃ next, (p.newFolder d).1.screen = .desktop next) ∧
      (p.newFolder d).1.session.mode = p.session.mode ∧ Quiet (p.newFolder d).2 := by
  unfold newFolder
  dsimp only
  split
  · exact ⟨hscreen, rfl, quiet_nil.cons rfl⟩
  · exact ⟨hscreen, rfl, quiet_nil.cons rfl⟩
  · next name _ _ =>
    split
    · next made hmade =>
      unfold Desktop.createFolder at hmade
      split at hmade
      · next done hdone =>
        cases hmade
        obtain ⟨folder, -, rfl⟩ := Session.createFolder_ok hdone
        refine ⟨⟨_, rfl⟩, rfl, (quiet_events ?_).cons rfl⟩
        exact fun _ hevent => Session.isRefusal_createFolder hdone hevent
      · cases hmade
    · next e he =>
      exact ⟨hscreen, rfl, ((quiet_nil.cons rfl).cons rfl).cons rfl⟩

/-- On the desktop no listener opens an editor. -/
theorem handleDesktop_spec {d : Desktop Float} (hscreen : p.screen = .desktop d)
    (handler : Handler) :
    (∃ next, (p.handleDesktop d o handler).1.screen = .desktop next) ∧
      (p.handleDesktop d o handler).1.session.mode = p.session.mode ∧
      Quiet (p.handleDesktop d o handler).2 := by
  cases handler with
  | movePointer => exact ⟨⟨_, rfl⟩, rfl, quiet_nil⟩
  | release => exact ⟨⟨_, rfl⟩, rfl, quiet_nil⟩
  | openMenu => exact ⟨⟨_, rfl⟩, rfl, quiet_nil.cons rfl⟩
  | closeMenu => exact ⟨⟨_, rfl⟩, rfl, quiet_nil⟩
  | backToTerminal => exact ⟨⟨d, hscreen⟩, rfl, quiet_nil⟩
  | pressIcon index =>
    rw [handleDesktop]
    split
    · exact ⟨⟨_, rfl⟩, rfl, quiet_nil.cons rfl⟩
    · exact ⟨⟨d, hscreen⟩, rfl, quiet_nil⟩
  | openFolder name =>
    refine ⟨⟨_, rfl⟩, rfl, quiet_events fun event hevent => ?_⟩
    rw [List.mem_singleton.1 hevent]
    rfl
  | pressTitle => exact ⟨⟨_, rfl⟩, rfl, quiet_nil.cons rfl⟩
  | pressHandle => exact ⟨⟨_, rfl⟩, rfl, (quiet_nil.cons rfl).cons rfl⟩
  | closeWindow => exact ⟨⟨_, rfl⟩, rfl, quiet_nil⟩
  | newFolder =>
    obtain ⟨hnext, hmode, hquiet⟩ :=
      newFolder_spec (p := p.setDesktop { d with menu := none }) ⟨{ d with menu := none }, rfl⟩
    exact ⟨hnext, hmode, hquiet.cons rfl⟩
  | absorb => exact ⟨⟨d, hscreen⟩, rfl, quiet_nil.cons rfl⟩
  | focusInput | promptTyped | promptKey | editorTyped | editorKey =>
    exact ⟨⟨d, hscreen⟩, rfl, quiet_nil⟩

theorem promptKey_kind {draft : String} (hscreen : p.screen = .prompt draft) :
    (p.promptKey draft o).1.screen.kind = .prompt := by
  have hkind : p.screen.kind = .prompt := congrArg Screen.kind hscreen
  unfold promptKey recallOlder
  split
  · rfl
  · split
    · dsimp only
      split
      · exact hkind
      · rfl
    · split
      · rfl
      · split
        · rfl
        · split
          · exact hkind
          · exact hkind

/-- No listener changes the screen. -/
theorem handle_kind (p : Page) (o : Occurrence) (handler : Handler) :
    (p.handle o handler).1.screen.kind = p.screen.kind := by
  cases hscreen : p.screen with
  | prompt draft =>
    by_cases hkey : handler = .promptKey
    · subst hkey
      rw [handle_promptKey hscreen]
      exact promptKey_kind hscreen
    · obtain ⟨⟨next, hnext⟩, -, -⟩ := handle_of_prompt (o := o) hscreen hkey
      rw [hnext]
      rfl
  | editor => rw [(handle_of_editor (o := o) hscreen handler).1]
  | desktop d =>
    obtain ⟨⟨next, hnext⟩, -, -⟩ := handleDesktop_spec (o := o) hscreen handler
    rw [handle_of_desktop hscreen, hnext]
    rfl

/-! ## Events -/

/-- A listener that acts leaves the others what they need. -/
theorem Handling.handle {handler : Handler} {rest : List Handler}
    (h : Handling (handler :: rest) p) :
    Handling rest (p.handle o handler).1 ∧ Quiet (p.handle o handler).2 := by
  cases h with
  | @prompt draft screen view once ready =>
    by_cases hkey : handler = .promptKey
    · -- The key may open the editor, but it does not come to the prompt a second time.
      subst hkey
      obtain ⟨hmode, hview⟩ := ready (List.mem_cons_self ..)
      have hrest : .promptKey ∉ rest := by
        rw [List.count_cons_self] at once
        exact List.count_eq_zero.1 (by omega)
      rw [handle_promptKey screen]
      exact promptKey_handling screen hmode hview hrest
    · obtain ⟨⟨next, hnext⟩, hsession, hquiet⟩ := handle_of_prompt (o := o) screen hkey
      rw [hquiet]
      refine ⟨.prompt hnext ?_ ?_ fun hmem => ?_, quiet_nil⟩
      · rw [hsession]
        exact view
      · exact (List.count_le_count_cons ..).trans once
      · rw [hsession]
        exact ready (List.mem_cons_of_mem _ hmem)
  | editor screen view =>
    obtain ⟨hnext, hview, hquiet⟩ := handle_of_editor (o := o) screen handler
    exact ⟨.editor hnext (hview.trans view), hquiet⟩
  | @desktop d screen mode =>
    obtain ⟨⟨next, hnext⟩, hmode, hquiet⟩ := handleDesktop_spec (o := o) screen handler
    rw [handle_of_desktop screen]
    exact ⟨.desktop hnext (hmode.trans mode), hquiet⟩

theorem Handling.handleAll {handlers rest : List Handler} (h : Handling (handlers ++ rest) p) :
    Handling rest (p.handleAll o handlers).1 ∧ Quiet (p.handleAll o handlers).2 := by
  induction handlers generalizing p with
  | nil => exact ⟨h, quiet_nil⟩
  | cons handler handlers ih =>
    obtain ⟨hnext, hquiet⟩ := Handling.handle (o := o) h
    obtain ⟨hlast, hmore⟩ := ih hnext
    exact ⟨hlast, hquiet.append hmore⟩

/-- However far the event gets, the session is fit for the listeners that have not heard of it. -/
theorem Handling.bubble {hearers : List (List Handler)} (h : Handling hearers.flatten p) :
    (∃ rest, Handling rest (p.bubble o hearers).1) ∧ Quiet (p.bubble o hearers).2 := by
  induction hearers generalizing p with
  | nil => exact ⟨⟨[], h⟩, quiet_nil⟩
  | cons handlers outer ih =>
    obtain ⟨hnext, hquiet⟩ := Handling.handleAll (o := o) h
    rw [Page.bubble]
    dsimp only
    split
    · exact ⟨⟨outer.flatten, hnext⟩, hquiet⟩
    · obtain ⟨hlast, hmore⟩ := ih hnext
      exact ⟨hlast, hquiet.append hmore⟩

/-- Of the listeners that hear an event none is asked more often than it stands in the markup. -/
theorem count_hearers_le {p : Page} {name : String} {n : Nat} {lineage : List (Tag Handler)}
    (htarget : p.target? name n = some lineage) (kind : String) (handler : Handler) :
    (hearers kind lineage).flatten.count handler ≤ p.markup.handlers.count handler := by
  have hhearing : ∀ tag : Tag Handler, (tag.hearing kind).Sublist tag.handlers := fun tag =>
    List.filter_sublist.map _
  have hpath : (if kind = "mouseleave" then lineage.take 1 else lineage).Sublist lineage := by
    split
    · exact List.take_sublist 1 lineage
    · exact List.Sublist.refl lineage
  have hheard : (hearers kind lineage).flatten.Sublist (lineage.flatMap Tag.handlers) := by
    rw [hearers, ← List.flatMap_def]
    exact (hpath.flatMap _).trans (List.Sublist.flatMap_right _ fun tag _ => hhearing tag)
  exact (hheard.count_le handler).trans (Markup.count_handlers_le htarget handler)

/-- Who hears an event listens in the markup for events of its kind. -/
theorem mem_listeners_of_mem_hearers {p : Page} {name kind : String} {n : Nat}
    {lineage : List (Tag Handler)} (htarget : p.target? name n = some lineage) {handler : Handler}
    (h : handler ∈ (hearers kind lineage).flatten) : (kind, handler) ∈ p.markup.listeners := by
  obtain ⟨heard, hheard, hhandler⟩ := List.mem_flatten.1 h
  obtain ⟨tag, htag, rfl⟩ := List.mem_map.1 hheard
  have hlineage : tag ∈ lineage := by
    split at htag
    · exact List.mem_of_mem_take htag
    · exact htag
  obtain ⟨⟨other, handler⟩, hlistener, rfl⟩ := List.mem_map.1 hhandler
  obtain ⟨hmem, hkind⟩ := List.mem_filter.1 hlistener
  obtain rfl : other = kind := by simpa using hkind
  exact List.mem_flatMap.2 ⟨tag, Markup.mem_tags_of_target? htarget tag hlineage, hmem⟩

end Page

end MemShell
