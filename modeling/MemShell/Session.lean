import MemShell.Command
import MemShell.FileSystem
import MemShell.Line
import MemShell.Manual
import MemShell.Settings

/-!
# Sessions

A session owns all that one user's shell needs: the file system, the current directory, what it
does with input, the view and the log. This module holds the state and the operations that are
not commands; `Session.Execute` runs commands and `Session.Submit` command lines.

Every operation gives back an `Outcome`: its answer, the session afterwards and the events.
-/

namespace MemShell

structure Session where
  fs : FileSystem
  cwd : String
  mode : Mode
  view : View
  /-- The output so far, oldest line first. -/
  log : List Line
  settings : Settings

namespace Session

/-- A new session stands in the root of the startup tree and has logged the banner. -/
def start (settings : Settings) : Outcome Session Unit :=
  let tree := FileSystem.startup
  ⟨(), ⟨tree.state, Path.root, .prompting, .terminal, Manual.banner.map .info, settings⟩,
    tree.events⟩

/-- The current directory as `pwd` shows it. -/
def displayDir (s : Session) : String := Path.display s.cwd

/-- The prompt without its mark. -/
def promptText (s : Session) : String :=
  s.settings.user ++ "@" ++ s.settings.host ++ ":" ++ s.displayDir

def editor? (s : Session) : Option Editor := s.mode.editor?

def isEditing (s : Session) : Bool := s.mode.isEditing

def setView (s : Session) (view : View) : Session := { s with view }

/-! ## The editor -/

/-- Replace the buffer of the open editor. Without an open editor nothing happens. -/
def editorInput (s : Session) (text : String) : Session :=
  match s.mode with
  | .prompting => s
  | .editing editor => { s with mode := .editing (editor.setBuffer text) }

/-- Write the buffer to the file of the editor, which stays open and says how it went. -/
def save (s : Session) (editor : Editor) : Outcome Session (List Line) :=
  match s.fs.write editor.dir editor.file editor.buffer with
  | .ok written =>
    let message := "File '" ++ editor.file ++ "' saved"
    let line := Line.success message
    ⟨[line],
      { s with
        fs := written.state
        mode := .editing { editor with status := some message }
        log := s.log ++ [line] },
      written.events⟩
  | .error e =>
    let line := Line.error ("nano: " ++ e.message)
    ⟨[line],
      { s with
        mode := .editing { editor with status := some e.message }
        log := s.log ++ [line] },
      []⟩

/-- Carry out a control input of the editor. The lines that it produced are logged too. -/
def editorCommand (s : Session) (command : EditorCommand) : Outcome Session (List Line) :=
  match s.mode with
  | .prompting => ⟨[], s, [.editorCommandRefused command]⟩
  | .editing editor =>
    match command with
    | .save => s.save editor
    | .exit => ⟨[], { s with mode := .prompting }, [.editorClosed editor.path]⟩

/-- Carry out a key press while editing; the answer says whether it was a control input. -/
def editorKey (s : Session) (ctrl : Bool) (key : String) : Outcome Session Bool :=
  if s.isEditing then
    match EditorCommand.ofKey? ctrl key with
    | some command =>
      let done := s.editorCommand command
      ⟨true, done.state, done.events⟩
    | none => ⟨false, s, []⟩
  else ⟨false, s, []⟩

/-! ## The desktop's folders -/

/-- The folders of the desktop, none if their directory has been removed. -/
def homeFolders (s : Session) : List String :=
  match s.fs.list Path.home with
  | .ok listing => listing.dirs
  | .error _ => []

/-- Where the desktop folder `name` lives. -/
def folderPath (name : String) : String := Path.join Path.home name

/-- Make a desktop folder, under the rules of `mkdir`. -/
def createFolder (s : Session) (name : String) : Except FsError (Outcome Session Unit) :=
  match s.fs.makeDirectory Path.home name with
  | .ok made =>
    .ok ⟨(), { s with fs := made.state }, made.events ++ [.desktopFolderCreated name]⟩
  | .error e => .error e

/-- What a folder window shows. -/
def contents (s : Session) (path : String) : Except FsError Listing := s.fs.list path

end Session

end MemShell
