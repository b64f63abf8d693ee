import MemShell.Page.Look

/-!
# Events on the page

An event happens at an element. The listeners of that element hear of it first and those of the
elements around it next, from the inside out, until one of them stops it. Who hears it is settled
before the first listener acts. Once all have acted, the page shows the screen that the session
calls for.
-/

namespace MemShell.Page

/-- The listeners that hear an event, innermost first. An event that the pointer has left an
element is heard by that element alone. -/
def hearers (kind : String) (lineage : List (Tag Handler)) : List (List Handler) :=
  (if kind = "mouseleave" then lineage.take 1 else lineage).map (·.hearing kind)

/-- All listeners of one element act. -/
def handleAll (p : Page) (o : Occurrence) : List Handler → Page × List Effect
  | [] => (p, [])
  | handler :: handlers =>
    let (p, effects) := p.handle o handler
    let (p, more) := p.handleAll o handlers
    (p, effects ++ more)

/-- The elements act from the inside out, until one of them stops the event. -/
def bubble (p : Page) (o : Occurrence) : List (List Handler) → Page × List Effect
  | [] => (p, [])
  | handlers :: outer =>
    let (p, effects) := p.handleAll o handlers
    if effects.contains .stopPropagation then (p, effects)
    else
      let (p, more) := p.bubble o outer
      (p, effects ++ more)

/-- The element of an event, with what it stands in. -/
def target? (p : Page) (name : String) (count : Nat) : Option (List (Tag Handler)) :=
  p.markup.target? name count

/-- An event happens at the innermost element of a lineage. -/
def dispatch (p : Page) (o : Occurrence) (lineage : List (Tag Handler)) : Page × List Effect :=
  let (p, effects) := p.bubble o (hearers o.kind lineage)
  let (p, more) := p.settle
  (p, effects ++ more)

/-- The text in the field of an element. -/
def fieldText (lineage : List (Tag Handler)) : String :=
  (lineage.head?.bind (·.value)).getD ""

end MemShell.Page
