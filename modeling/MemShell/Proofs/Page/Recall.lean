import MemShell.Proofs.Page.Modes
import MemShell.Proofs.Terminal.Origins

/-!
# Replaying a recalled line

Going back to an earlier line and pressing Enter does what that line did when it was typed
(`recall_replays`). The input field, the history and the session each hold a part of this: a step
back puts an entry into the field, whatever was typed there before (`hearKey_older`), Enter submits
what the field shows (`hearKey_enter`), and the entry, which is trimmed, stands for the line that it
was made from. As long as the prompt is shown, pressing a key in its field is nothing but the
field's listener hearing it (`act_key`).
-/

namespace MemShell

/-- A key is pressed, whichever others are held. -/
def Occurrence.Presses (o : Occurrence) (key : String) : Prop := o.kind = "keydown" ∧ o.key = key

namespace Page

open Markup
open History (Recalls origins recalled)

/-- The listener for the keys in the field of the prompt acts. -/
def hearKey (p : Page) (o : Occurrence) : Outcome Page (List Effect) :=
  let (next, effects) := p.handle o .promptKey
  ⟨effects, next, effects.filterMap Effect.event?⟩

/-- A key is pressed in the field of the prompt. -/
def Action.key (o : Occurrence) : Action := .occur o "input" 0

/-- The page with a line in the field of the prompt, and with its history. -/
def recalling (p : Page) (history : History) (line : String) : Page :=
  { p with terminal := { p.terminal with history }, screen := .prompt line }

variable {p : Page} {o : Occurrence}

/-! ## The listener -/

theorem hearKey_older {draft : String} (hscreen : p.screen = .prompt draft)
    (hkey : o.key = "ArrowUp") (hpositioned : p.terminal.history.Positioned)
    (hentries : p.terminal.history.entries ≠ []) :
    ∃ history line, Recalls p.terminal.history.entries
        (min (p.terminal.history.back + 1) p.terminal.history.entries.length) history line ∧
      (p.hearKey o).state = p.recalling history line := by
  obtain ⟨history, line, hstep, hrecalls⟩ := hpositioned.recalls_older hentries
  refine ⟨history, line, hrecalls, ?_⟩
  have hterminal : p.terminal.step (-1) = ({ p.terminal with history }, some line) := by
    rw [Terminal.step, hstep]
  have henter : ("ArrowUp" : String) ≠ "Enter" := by decide
  rw [hearKey, handle_promptKey hscreen, promptKey, hkey, if_neg henter, if_pos rfl, recallOlder,
    hterminal]
  rfl

theorem hearKey_enter {line : String} (hscreen : p.screen = .prompt line)
    (hkey : o.key = "Enter") :
    (p.hearKey o).state =
      { p with terminal := (p.terminal.submit line).state, screen := .prompt "" } := by
  rw [hearKey, handle_promptKey hscreen, promptKey, if_pos hkey]
  rfl

/-- Steps back put the entry that is so many steps back into the field, or the oldest one. -/
theorem run_older {draft : String} (hscreen : p.screen = .prompt draft)
    (hpositioned : p.terminal.history.Positioned) (hentries : p.terminal.history.entries ≠ [])
    {older : List Occurrence} (holder : older ≠ [])
    (hpresses : ∀ o ∈ older, o.Presses "ArrowUp") :
    ∃ history entry, Recalls p.terminal.history.entries
        (min (p.terminal.history.back + older.length) p.terminal.history.entries.length)
        history entry ∧
      Run.state hearKey p older = p.recalling history entry := by
  induction older generalizing p draft with
  | nil => exact absurd rfl holder
  | cons o older ih =>
    obtain ⟨⟨-, hkey⟩, hrest⟩ := List.forall_mem_cons.1 hpresses
    obtain ⟨next, line, hnext, hheard⟩ := hearKey_older hscreen hkey hpositioned hentries
    rw [Run.state_cons, hheard]
    by_cases hmore : older = []
    · subst hmore
      exact ⟨next, line, hnext, rfl⟩
    · have hthere : (p.recalling next line).terminal.history.entries =
          p.terminal.history.entries := hnext.entries_eq
      have hback : (p.recalling next line).terminal.history.back =
          min (p.terminal.history.back + 1) p.terminal.history.entries.length := hnext.back_eq
      obtain ⟨history, entry, hlast, hrun⟩ :=
        ih (p := p.recalling next line) rfl hnext.positioned (hthere ▸ hentries) hmore hrest
      refine ⟨history, entry, ?_, hrun⟩
      have hcount :
          min (p.terminal.history.back + (o :: older).length) p.terminal.history.entries.length =
            min (min (p.terminal.history.back + 1) p.terminal.history.entries.length +
              older.length) p.terminal.history.entries.length := by
        rw [List.length_cons]
        omega
      rw [hthere, hback] at hlast
      rwa [hcount]

/-! ## The event -/

theorem bubble_of_forall_nil {outer : List (List Handler)} (h : ∀ handlers ∈ outer, handlers = []) :
    (p.bubble o outer).1 = p := by
  induction outer with
  | nil => rfl
  | cons handlers outer ih =>
    obtain ⟨rfl, hrest⟩ := List.forall_mem_cons.1 h
    exact ih hrest

/-- Where only the innermost element listens, only its listeners act. -/
theorem bubble_cons_of_forall_nil {handlers : List Handler} {outer : List (List Handler)}
    (h : ∀ others ∈ outer, others = []) :
    (p.bubble o (handlers :: outer)).1 = (p.handleAll o handlers).1 := by
  rw [bubble]
  dsimp only
  split
  · rfl
  · exact bubble_of_forall_nil h

/-- The keys are heard in the field and nowhere around it. -/
theorem exists_target_input {draft : String} (hscreen : p.screen = .prompt draft) :
    ∃ lineage, p.target? "input" 0 = some lineage ∧
      hearers "keydown" lineage = [[.promptKey], [], [], [], [], []] := by
  have hcount : p.markup.count "input" = 1 := by
    have hcount := count_markup p .prompt
    rwa [hscreen, Screen.kind, if_pos rfl] at hcount
  have hmarkup : p.markup =
      plain "main" [("id", "app")] [div "screen" [promptNode p.session draft]] := by
    rw [markup, screenNode, hscreen]
  refine ⟨?lineage, target?_of_count hcount ?path ?name, ?heard⟩
  case path =>
    rw [hmarkup]
    refine mem_lineages_element List.mem_cons_self ?_
    refine mem_lineages_element List.mem_cons_self ?_
    refine mem_lineages_element (List.mem_cons_of_mem _ List.mem_cons_self) ?_
    refine mem_lineages_element List.mem_cons_self ?_
    refine mem_lineages_element
      (List.mem_cons_of_mem _ (List.mem_cons_of_mem _ List.mem_cons_self)) ?_
    exact List.mem_cons_self
  case name => rfl
  case heard => rfl

/-- The listener hears the key, and then the page shows the screen that the session calls for. -/
theorem act_key {draft : String} (hscreen : p.screen = .prompt draft) (hkind : o.kind = "keydown") :
    (p.act (.key o)).state = (p.hearKey o).state.settle.1 := by
  obtain ⟨lineage, htarget, hhearers⟩ := exists_target_input hscreen
  have hdispatch : (p.act (.key o)).state = (p.bubble o (hearers o.kind lineage)).1.settle.1 := by
    rw [Action.key, act, htarget]
    rfl
  have hbubble : (p.bubble o (hearers o.kind lineage)).1 = (p.hearKey o).state := by
    rw [hkind, hhearers, bubble_cons_of_forall_nil (by simp)]
    rfl
  rw [hdispatch, hbubble]

theorem settle_of_screen (h : p.screen.kind = p.session.screenKind) : p.settle = (p, []) := by
  rw [settle, if_pos h]

theorem settle_terminal (p : Page) : p.settle.1.terminal = p.terminal := by
  rw [settle]
  split
  · rfl
  · cases p.session.screenKind with
    | prompt | editor | desktop => rfl

/-- While lines are recalled the prompt stays, so only the last key may call for another screen. -/
theorem run_act_key {draft : String} (hscreen : p.screen = .prompt draft)
    (hprompt : p.session.screenKind = .prompt) (hpositioned : p.terminal.history.Positioned)
    (hentries : p.terminal.history.entries ≠ []) {older : List Occurrence}
    (hpresses : ∀ o ∈ older, o.Presses "ArrowUp") {enter : Occurrence}
    (henter : enter.kind = "keydown") :
    Run.state act p ((older ++ [enter]).map .key) =
      (Run.state hearKey p (older ++ [enter])).settle.1 := by
  induction older generalizing p draft with
  | nil => exact act_key hscreen henter
  | cons o older ih =>
    obtain ⟨⟨hkind, hkey⟩, hrest⟩ := List.forall_mem_cons.1 hpresses
    obtain ⟨history, line, hrecalls, hheard⟩ := hearKey_older hscreen hkey hpositioned hentries
    have hstays : (p.recalling history line).settle.1 = p.recalling history line := by
      rw [settle_of_screen]
      exact hprompt.symm
    rw [List.cons_append, List.map_cons, Run.state_cons, Run.state_cons, act_key hscreen hkind,
      hheard, hstays]
    refine ih rfl hprompt hrecalls.positioned ?_ hrest
    exact hrecalls.entries_eq ▸ hentries

/-! ## Recalling and Enter -/

/-- Some steps back and Enter submit the entry that is so many steps back, or the oldest one. -/
theorem run_recall {draft : String} (hscreen : p.screen = .prompt draft)
    (hposition : p.terminal.history.position = none)
    (hentries : p.terminal.history.entries ≠ []) {older : List Occurrence} (holder : older ≠ [])
    (hpresses : ∀ o ∈ older, o.Presses "ArrowUp") {enter : Occurrence}
    (henter : enter.key = "Enter") :
    ∃ entry, recalled p.terminal.history.entries
        (min older.length p.terminal.history.entries.length) = some entry ∧
      Run.state hearKey p (older ++ [enter]) =
        { p with terminal := (p.terminal.submit entry).state, screen := .prompt "" } := by
  obtain ⟨history, entry, hrecalls, hrun⟩ :=
    run_older hscreen (History.positioned_of_none hposition) hentries holder hpresses
  rw [History.back_of_none hposition, Nat.zero_add] at hrecalls
  have hsubmit : (p.recalling history entry).terminal.submit entry = p.terminal.submit entry :=
    Terminal.submit_of_entries hrecalls.entries_eq entry
  refine ⟨entry, hrecalls.recalled_eq, ?_⟩
  rw [Run.state_append, hrun, Run.state_cons, Run.state_nil, hearKey_enter rfl henter, hsubmit]
  rfl

/-- From the prompt, steps back and Enter do what the line did that the recalled entry was made
from, as it was typed. They lead to the same session with the same history and leave the field
empty, whatever stood there. This is so for the listener of the field by itself, and on the page,
where the line may then call for another screen. -/
theorem recall_replays (settings : Settings) (actions : List Terminal.Action) (draft : String)
    (browser : Browser) (focus : Option Field) {older : List Occurrence} {enter : Occurrence}
    (hmode : (Terminal.after settings actions).session.mode = .prompting)
    (hposition : (Terminal.after settings actions).history.position = none)
    (hentries : (Terminal.after settings actions).history.entries ≠ []) (holder : older ≠ [])
    (hpresses : ∀ o ∈ older, o.Presses "ArrowUp") (henter : enter.Presses "Enter") :
    let t := Terminal.after settings actions
    let p : Page := ⟨t, .prompt draft, browser, focus⟩
    let back := min older.length t.history.entries.length
    ∃ line,
      recalled (origins (actions.filterMap Terminal.Action.line?)) back = some line ∧
        recalled t.history.entries back = some (Text.trim line) ∧
        let replayed : Page := { p with terminal := (t.submit line).state, screen := .prompt "" }
        Run.state hearKey p (older ++ [enter]) = replayed ∧
          (t.session.view = .terminal →
            let q := Run.state act p ((older ++ [enter]).map .key)
            q = replayed.settle.1 ∧ q.terminal = (t.submit line).state) := by
  intro t p back
  obtain ⟨entry, hentry, hrun⟩ :=
    run_recall (p := p) rfl hposition hentries holder hpresses henter.2
  have horigin : (recalled (origins (actions.filterMap Terminal.Action.line?)) back).map
      Text.trim = some entry := by
    rw [← History.recalled_map, ← Terminal.entries_eq_origins settings actions]
    exact hentry
  obtain ⟨line, hline, rfl⟩ := Option.map_eq_some_iff.1 horigin
  have hsubmit : p.terminal.submit (Text.trim line) = t.submit line :=
    Terminal.submit_trim hmode line
  refine ⟨line, hline, hentry, ?_⟩
  intro replayed
  have hheard : Run.state hearKey p (older ++ [enter]) = replayed := by
    rw [hrun, hsubmit]
  refine ⟨hheard, fun hview => ?_⟩
  have hprompt : p.session.screenKind = .prompt :=
    Session.screenKind_eq_prompt_iff.2 ⟨hview, Session.isEditing_of_prompting hmode⟩
  intro q
  have hq : q = replayed.settle.1 := by
    rw [← hheard]
    exact run_act_key rfl hprompt (History.positioned_of_none hposition) hentries hpresses henter.1
  refine ⟨hq, ?_⟩
  rw [hq, settle_terminal]

/-- The oldest entry was typed between blanks of several kinds, and then again between others. More
steps back than there are entries end at it. -/
theorem recall_replays_blanks :
    let actions : List Terminal.Action :=
      [.submit "\u2003mkdir\u00a0attic\t", .submit "mkdir\u00a0attic ", .submit " ls", .step (-1),
        .submit "\u3000"]
    let press (key : String) : Occurrence := ⟨"keydown", key, false, false, ⟨0, 0⟩, 0, ""⟩
    let older := List.replicate 3 (press "ArrowUp")
    let t := Terminal.after .standard actions
    let p : Page := ⟨t, .prompt "pw", ⟨none, ⟨[], 0⟩, []⟩, some .input⟩
    t.session.mode = .prompting ∧ t.history.position = none ∧ t.history.entries ≠ [] ∧
      older ≠ [] ∧ (∀ o ∈ older, o.Presses "ArrowUp") ∧ (press "Enter").Presses "Enter" ∧
      t.session.view = .terminal ∧
      (Run.state act p ((older ++ [press "Enter"]).map .key)).terminal =
        (t.submit "\u2003mkdir\u00a0attic\t").state := by
  intro actions press older t p
  have hmode : t.session.mode = .prompting := by decide +kernel
  have hposition : t.history.position = none := by decide +kernel
  have hentries : t.history.entries ≠ [] := by decide +kernel
  have holder : older ≠ [] := List.cons_ne_nil _ _
  have hpresses : ∀ o ∈ older, o.Presses "ArrowUp" := by
    intro o ho
    rw [List.eq_of_mem_replicate ho]
    exact ⟨rfl, rfl⟩
  have henter : (press "Enter").Presses "Enter" := ⟨rfl, rfl⟩
  have hview : t.session.view = .terminal := by decide +kernel
  obtain ⟨line, hline, -, -, hpage⟩ :=
    recall_replays .standard actions "pw" ⟨none, ⟨[], 0⟩, []⟩ (some .input) hmode hposition
      hentries holder hpresses henter
  have horigin : recalled (origins (actions.filterMap Terminal.Action.line?))
      (min older.length t.history.entries.length) = some "\u2003mkdir\u00a0attic\t" := by
    decide +kernel
  obtain rfl : line = "\u2003mkdir\u00a0attic\t" :=
    Option.some.inj (hline.symm.trans horigin)
  exact ⟨hmode, hposition, hentries, holder, hpresses, henter, hview, (hpage hview).2⟩

end Page

end MemShell
