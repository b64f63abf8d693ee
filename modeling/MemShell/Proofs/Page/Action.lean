import MemShell.Page.Dispatch
import MemShell.Proofs.Run

/-!
# What can be done to the page

The ways in which the user and the browser act on the page, as data. An event happens at an element
that is shown: it is found in the markup by a name that it answers to, and where there is none
nothing happens. What is typed into a field is the value of the event.
-/

namespace MemShell

def Effect.event? : Effect → Option Event
  | .event reported => some reported
  | .preventDefault | .stopPropagation | .cursorTo _ | .asked _ _ | .alerted _ | .scheduled _ =>
    none

namespace Page

inductive Action where
  /-- An event at the element with `count` others before it that answer to the name. -/
  | occur (occurrence : Occurrence) (name : String) (count : Nat)
  /-- The timers run out. -/
  | elapse
  /-- The window, the samples or the answers of the user are others from now on. -/
  | surround (browser : Browser)

/-- Act on the page. The answer is what happens around it. -/
def act (p : Page) : Action → Outcome Page (List Effect)
  | .occur occurrence name count =>
    match p.target? name count with
    | none => ⟨[], p, []⟩
    | some lineage =>
      let (next, effects) := p.dispatch occurrence lineage
      ⟨effects, next, effects.filterMap Effect.event?⟩
  | .elapse => ⟨[], p.elapse, []⟩
  | .surround browser => ⟨[], { p with browser }, []⟩

/-- The page that a run of actions leads to from a newly loaded one. -/
def after (browser : Browser) (actions : List Action) : Page :=
  Run.state act (load browser).1 actions

end Page

end MemShell
