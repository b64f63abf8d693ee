import MemShell.Page.Handler
import MemShell.Page.Markup

/-!
# How the page looks

The markup of the page is a function of its state. It also says where events are listened for.
-/

namespace MemShell

open Markup

namespace Page

abbrev Node := Markup Handler

/-! ## The prompt -/

/-- The class that colours a line of output. -/
def lineColour : Line → String
  | .text _ => "textFg"
  | .error _ => "textRed"
  | .success _ => "textGreen"
  | .info _ => "textYellow"
  | .command _ _ => "textFg"

def lineNode (line : Line) : Node :=
  match line with
  | .command promptText input =>
    div "command" [span "textGreen" [text promptText], span "textDim" [text Line.promptMark],
      span "textFg" [text input]]
  | line => div ("line " ++ lineColour line) [text line.plain]

def inputNode (draft : String) : Node :=
  element
    { name := "input"
      attributes := [("autocomplete", "off"), ("class", "input"), ("spellcheck", "false"),
        ("type", "text")]
      value := some draft
      listeners := [("input", .promptTyped), ("keydown", .promptKey)] } []

def promptNode (s : Session) (draft : String) : Node :=
  live "div" "container" [("click", .focusInput)]
    [div "output" (s.log.map lineNode),
      div "inputArea"
        [div "line" [span "prompt" [text s.promptText], span "separator" [text Line.promptMark],
          inputNode draft]]]

/-! ## The editor -/

def textareaNode (buffer : String) : Node :=
  element
    { name := "textarea"
      attributes := [("class", "textarea"), ("placeholder", Editor.placeholder),
        ("spellcheck", "false")]
      value := some buffer
      listeners := [("input", .editorTyped), ("keydown", .editorKey)] } []

def hintsNode : Node :=
  span "hints" [span "key" [text "^S"], text " Save  ", span "key" [text "^X"], text " Exit"]

def editorNode (editor : Option Editor) : Node :=
  div "editor"
    [div "titleBar" [text ((editor.map (·.title)).getD "")],
      textareaNode ((editor.map (·.buffer)).getD ""),
      div "statusBar"
        [span "status" [text ((editor.bind (·.status)).getD "")], hintsNode]]

/-! ## The desktop -/

def iconClass (drag : Option (Drag Float)) (index : Nat) : String :=
  match drag with
  | some (.icon i) => if i = index then "folder dragging" else "folder"
  | _ => "folder"

def iconNode (d : Desktop Float) (index : Nat) (shown : Icon Float) : Node :=
  element
    { name := "div"
      attributes := [("class", iconClass d.drag index), ("style", shown.pos.style)]
      value := none
      listeners := [("mousedown", .pressIcon index), ("dblclick", .openFolder shown.name)] }
    [span "glyph" [icon "FOLDER"], span "label" [text shown.name]]

def itemNode (symbol name : String) : Node := div "item" [icon symbol, text name]

/-- What a folder window says of its folder. -/
def contentsNodes : Except FsError Listing → List Node
  | .error e => [plain "p" [("class", "error")] [text e.message]]
  | .ok listing =>
    if listing.isEmpty then [plain "p" [("class", "empty")] [text "This folder is empty"]]
    else listing.dirs.map (itemNode "FOLDER") ++ listing.files.map (itemNode "FILE")

def closeButton : Node :=
  element
    { name := "button"
      attributes := [("class", "closeButton"), ("title", "Close")]
      value := none
      listeners := [("mousedown", .absorb), ("click", .closeWindow)] } [icon "CLOSE"]

def windowNode (s : Session) (d : Desktop Float) (folder : String) : Node :=
  element
    { name := "div"
      attributes := [("class", "window"), ("style", d.windowPos.style ++ " " ++ d.windowSize.style)]
      value := none
      listeners := [("contextmenu", .absorb)] }
    [live "div" "titleBar" [("mousedown", .pressTitle)] [span "title" [text folder], closeButton],
      div "content" (contentsNodes (s.contents (Session.folderPath folder))),
      live "div" "resizeHandle" [("mousedown", .pressHandle)] []]

def menuNode (place : Point Float) : Node :=
  element
    { name := "div"
      attributes := [("class", "menu"), ("style", place.style)]
      value := none
      listeners := [("mousedown", .absorb)] }
    [live "div" "item" [("click", .newFolder)]
      [icon "NEW_FOLDER", plain "span" [] [text "New Folder"]]]

def terminalButton : Node :=
  element
    { name := "button"
      attributes := [("class", "terminalButton"), ("title", "Terminal")]
      value := none
      listeners := [("click", .backToTerminal)] }
    [icon "TERMINAL", plain "span" [] [text "Terminal"]]

def desktopNode (s : Session) (d : Desktop Float) : Node :=
  live "div" "desktop"
    [("mousemove", .movePointer), ("mouseup", .release), ("mouseleave", .release),
      ("contextmenu", .openMenu), ("click", .closeMenu)]
    (d.icons.mapIdx (iconNode d) ++ (d.openFolder.map (windowNode s d)).toList ++
      (d.menu.map menuNode).toList ++ [terminalButton])

/-! ## The page -/

def screenNode (p : Page) : Node :=
  match p.screen with
  | .prompt draft => promptNode p.session draft
  | .editor => editorNode p.session.editor?
  | .desktop d => desktopNode p.session d

def markup (p : Page) : Node := plain "main" [("id", "app")] [div "screen" [p.screenNode]]

/-- How far the output is scrolled: to its last line, so by the number of its lines. Only the
prompt has output. -/
def scroll (p : Page) : Option Nat :=
  match p.screen with
  | .prompt _ => some p.session.log.length
  | _ => none

end Page

end MemShell
