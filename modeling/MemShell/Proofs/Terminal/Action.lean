import MemShell.Proofs.Session.Action
import MemShell.Terminal

/-!
# What can be done to a terminal

The ways in which the page acts on a terminal, as data. A line that is submitted joins the history
whether or not the session refuses it. Whatever else is done to the session by itself, `onSession`,
does not show in the history, and stepping through the history does not change its entries
(`entries_act`).
-/

namespace MemShell.Terminal

inductive Action where
  | submit (line : String)
  | step (direction : Int)
  | setView (view : View)
  /-- The session is acted on without the history being told. -/
  | onSession (action : Session.Action)
deriving DecidableEq, Repr

/-- Act on the terminal. The answers differ in kind and are left out. -/
def act (t : Terminal) : Action → Outcome Terminal Unit
  | .submit line => let done := t.submit line; ⟨(), done.state, done.events⟩
  | .step direction => ⟨(), (t.step direction).1, []⟩
  | .setView view => ⟨(), t.setView view, []⟩
  | .onSession action =>
    let done := t.session.act action
    ⟨(), { t with session := done.state }, done.events⟩

/-- The line that an action submits. -/
def Action.line? : Action → Option String
  | .submit line => some line
  | .step _ | .setView _ | .onSession _ => none

/-- The terminal that a run of actions leads to from a new one. -/
def after (settings : Settings) (actions : List Action) : Terminal :=
  Run.state act (start settings).state actions

theorem entries_step (h : History) (direction : Int) :
    (h.step direction).1.entries = h.entries := by
  unfold History.step
  split
  · rfl
  · rfl

/-- Only a submitted line changes what is kept. -/
theorem entries_act (t : Terminal) (action : Action) :
    (t.act action).state.history.entries =
      match action.line? with
      | some line => (t.history.record (Text.trim line)).entries
      | none => t.history.entries := by
  cases action with
  | submit | setView | onSession => rfl
  | step direction => exact entries_step t.history direction

end MemShell.Terminal
