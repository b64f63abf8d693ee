import MemShell.Page.State

/-!
# What the page does on an event

Each listener of the page is named by what it is for. `Page.handle` says what it does to the page
and which effects that has around it. The screen is not changed here: it follows the session once
the event is over, see `Page.settle`.
-/

namespace MemShell

/-- An event of the keyboard or the pointer, with `value` the text in the field where it
happened. -/
structure Occurrence where
  kind : String
  key : String
  ctrl : Bool
  command : Bool
  pointer : Point Float
  button : Int
  value : String

inductive Handler where
  /-- A click next to the prompt goes to its input field. -/
  | focusInput
  | promptTyped
  | promptKey
  | editorTyped
  | editorKey
  | movePointer
  | release
  | openMenu
  | closeMenu
  | backToTerminal
  | pressIcon (index : Nat)
  | openFolder (name : String)
  | pressTitle
  | pressHandle
  | closeWindow
  /-- Pick the menu's item for a new folder. -/
  | newFolder
  /-- Hear the event so that nothing further out does. -/
  | absorb
deriving DecidableEq, Repr

namespace Page

def events (events : List Event) : List Effect := events.map .event

/-- Submit a line to the session. -/
def submit (p : Page) (line : String) : Page × List Effect :=
  let done := p.terminal.submit line
  ({ p with terminal := done.state }, events done.events)

/-- A key that recalls a line puts it into the input field. Going to an older line puts the cursor
behind as many bytes as the field's text had before. -/
def recallOlder (p : Page) (draft : String) : Page × List Effect :=
  match p.terminal.step (-1) with
  | (terminal, none) => ({ p with terminal }, [])
  | (terminal, some line) =>
    ({ p with terminal }.setDraft line, [.cursorTo draft.utf8ByteSize])

/-- Going to a newer line leaves the field empty after the newest one. -/
def recallNewer (p : Page) : Page :=
  let (terminal, line) := p.terminal.step 1
  { p with terminal }.setDraft (line.getD "")

/-- A key in the input field of the prompt. -/
def promptKey (p : Page) (draft : String) (o : Occurrence) : Page × List Effect :=
  if o.key = "Enter" then (p.setDraft "").submit draft
  else if o.key = "ArrowUp" then
    let (page, effects) := p.recallOlder draft
    (page, .preventDefault :: effects)
  else if o.key = "ArrowDown" then (p.recallNewer, [.preventDefault])
  else if o.key = "c" ∧ o.ctrl then (p.setDraft "", [])
  else if o.key = "l" ∧ o.ctrl then
    let (page, effects) := p.submit "clear"
    (page, .preventDefault :: effects)
  else (p, [])

/-- A key in the editor. The command key stands for the control key too. -/
def editorKey (p : Page) (o : Occurrence) : Page × List Effect :=
  if o.ctrl || o.command then
    let done := p.session.editorKey true o.key
    (p.setSession done.state,
      events done.events ++
        if done.value then [.preventDefault, .event (.editorShortcut o.key)] else [])
  else (p, [])

/-- The name that is suggested for a new folder. -/
def newFolderName : String := "New_Folder"

/-- Ask for a name and make a desktop folder. A cancelled or empty answer makes none, a name that
is refused is reported to the user. -/
def newFolder (p : Page) (d : Desktop Float) : Page × List Effect :=
  let question := Effect.asked "Folder name:" newFolderName
  let (answer, browser) := p.browser.ask
  let p := { p with browser }
  match answer with
  | none | some "" => (p, [question])
  | some name =>
    let (share, samples) := browser.samples.nextPoint
    let p := { p with browser := { browser with samples } }
    match d.createFolder p.session browser.viewportOrStandard name share with
    | .ok made =>
      ((p.setDesktop made.state.1).setSession made.state.2,
        question :: events made.events)
    | .error e =>
      (p, [question, .event (.desktopFolderRejected e), .alerted ("mkdir: " ++ e.message)])

/-- What a handler does on the desktop. -/
def handleDesktop (p : Page) (d : Desktop Float) (o : Occurrence) : Handler → Page × List Effect
  | .movePointer => (p.setDesktop (d.pointerMoved o.pointer p.browser.viewportOrStandard), [])
  | .release => (p.setDesktop d.release, [])
  | .openMenu => (p.setDesktop { d with menu := some o.pointer }, [.preventDefault])
  | .closeMenu => (p.setDesktop { d with menu := none }, [])
  | .backToTerminal => ({ p with terminal := p.terminal.setView .terminal }, [])
  | .pressIcon index =>
    if o.button = 0 then (p.setDesktop (d.grabIcon index), [.preventDefault]) else (p, [])
  | .openFolder name =>
    let opened := d.openWindow name
    (p.setDesktop opened.state, events opened.events)
  | .pressTitle => (p.setDesktop (d.grabWindow o.pointer), [.preventDefault])
  | .pressHandle => (p.setDesktop d.grabHandle, [.preventDefault, .stopPropagation])
  | .closeWindow => (p.setDesktop d.closeWindow, [])
  | .newFolder =>
    let closed := { d with menu := none }
    let (page, effects) := (p.setDesktop closed).newFolder closed
    (page, .stopPropagation :: effects)
  | .absorb => (p, [.stopPropagation])
  | _ => (p, [])

/-- What a handler does. A handler of a screen that is not shown does nothing. -/
def handle (p : Page) (o : Occurrence) (handler : Handler) : Page × List Effect :=
  match p.screen, handler with
  | .prompt _, .focusInput => ({ p with focus := some .input }, [])
  | .prompt _, .promptTyped => (p.setDraft o.value, [])
  | .prompt draft, .promptKey => p.promptKey draft o
  | .editor, .editorTyped => (p.setSession (p.session.editorInput o.value), [])
  | .editor, .editorKey => p.editorKey o
  | .desktop d, handler => p.handleDesktop d o handler
  | _, _ => (p, [])

end Page

end MemShell
