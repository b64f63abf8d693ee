import MemShell.History
import MemShell.Session.Submit

/-!
# A session with history

The page's side of a session: the same session that a line-oriented front end would drive, and
the history of the lines that were submitted to it.
-/

namespace MemShell

structure Terminal where
  session : Session
  history : History

namespace Terminal

def start (settings : Settings) : Outcome Terminal Unit :=
  let begun := Session.start settings
  ⟨(), ⟨begun.state, .empty⟩, begun.events⟩

/-- Submit a line: it joins the history trimmed and reaches the session as it is. -/
def submit (t : Terminal) (line : String) : Outcome Terminal Reply :=
  let done := t.session.submit line
  ⟨done.value, ⟨done.state, t.history.record (Text.trim line)⟩, done.events⟩

/-- Step through the history, see `History.step`. -/
def step (t : Terminal) (direction : Int) : Terminal × Option String :=
  let (history, entry) := t.history.step direction
  ({ t with history }, entry)

def setView (t : Terminal) (view : View) : Terminal :=
  { t with session := t.session.setView view }

end Terminal

end MemShell
