import MemShell.Desktop
import MemShell.Samples
import MemShell.Terminal

/-!
# The state of the page

The page shows one screen at a time: the prompt with the output above it, the editor, or the
desktop. Which one is decided by the session alone (`Session.screenKind`); a screen has state of
its own, which lives as long as the screen is shown.
-/

namespace MemShell

/-- What the page asks of the browser around it. -/
structure Browser where
  /-- The size of the window, if it can be read. -/
  viewport : Option (Size Float)
  samples : Samples Float
  /-- What the user will answer to questions; `none` for a cancelled one. -/
  answers : List (Option String)

namespace Browser

/-- The size of the window, and a common one if it cannot be read. -/
def viewportOrStandard (b : Browser) : Size Float := b.viewport.getD (Geometry.size 800 600)

/-- Ask the user. Once the answers are used up, every question is cancelled. -/
def ask (b : Browser) : Option String × Browser :=
  (b.answers.head?.join, { b with answers := b.answers.tail })

end Browser

inductive Screen where
  /-- The prompt, with what has been typed so far. -/
  | prompt (draft : String)
  | editor
  | desktop (desktop : Desktop Float)

inductive ScreenKind where
  | prompt
  | editor
  | desktop
deriving DecidableEq, Repr

def Screen.kind : Screen → ScreenKind
  | prompt _ => .prompt
  | editor => .editor
  | desktop _ => .desktop

/-- The screen that a session calls for. -/
def Session.screenKind (s : Session) : ScreenKind :=
  match s.view with
  | .desktop => .desktop
  | .terminal => if s.isEditing then .editor else .prompt

/-- The fields that can have the keyboard's focus. -/
inductive Field where
  | input
  | textarea
deriving DecidableEq, Repr

def Field.tagName : Field → String
  | input => "input"
  | textarea => "textarea"

structure Page where
  terminal : Terminal
  screen : Screen
  browser : Browser
  focus : Option Field

/-- What happens around the page on its behalf. -/
inductive Effect where
  /-- The browser's own reaction to the event is called off. -/
  | preventDefault
  /-- Elements further out do not hear of the event. -/
  | stopPropagation
  /-- The cursor of the input field is put behind so many units. -/
  | cursorTo (position : Nat)
  | asked (question suggestion : String)
  | alerted (text : String)
  /-- A timer was set, in milliseconds. -/
  | scheduled (delay : Nat)
  | event (event : Event)
deriving DecidableEq, Repr

namespace Page

def session (p : Page) : Session := p.terminal.session

def setSession (p : Page) (s : Session) : Page :=
  { p with terminal := { p.terminal with session := s } }

def setDraft (p : Page) (draft : String) : Page := { p with screen := .prompt draft }

def setDesktop (p : Page) (d : Desktop Float) : Page := { p with screen := .desktop d }

/-! ## Changing screens -/

/-- How long the editor waits before it takes the focus. -/
def focusDelay : Nat := 50

/-- A new desktop has an icon for each folder, at random places. -/
def mountDesktop (p : Page) : Page :=
  let (folders, samples) := p.browser.samples.scatter p.session.homeFolders
  { p with
    screen := .desktop (.start p.browser.viewportOrStandard folders)
    browser := { p.browser with samples }
    focus := none }

/-- Show a new screen. The prompt takes the focus at once, the editor after a delay. -/
def mount (p : Page) : ScreenKind → Page × List Effect
  | .prompt => ({ p with screen := .prompt "", focus := some .input }, [])
  | .editor => ({ p with screen := .editor, focus := none }, [.scheduled focusDelay])
  | .desktop => (p.mountDesktop, [])

/-- Show the screen that the session calls for. A screen that is shown already stays as it is. -/
def settle (p : Page) : Page × List Effect :=
  if p.screen.kind = p.session.screenKind then (p, []) else p.mount p.session.screenKind

/-- Let the timers run out. -/
def elapse (p : Page) : Page :=
  match p.screen with
  | .editor => { p with focus := some .textarea }
  | _ => p

/-- The page as it is loaded: a new session with standard settings. -/
def load (browser : Browser) : Page × List Effect :=
  let begun := Terminal.start .standard
  let blank : Page := ⟨begun.state, .prompt "", browser, none⟩
  let (page, effects) := blank.mount blank.session.screenKind
  (page, begun.events.map .event ++ effects)

end Page

end MemShell
