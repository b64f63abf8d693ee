import MemShell.Event
import MemShell.Text.Blank
import MemShell.Text.Quoted

/-!
# Console entries

Each event is one entry of the browser console. An entry has a level, the area of the program
that reports it, a message and fields. Names and paths stand in the fields as they are; input
that was refused and the names of new desktop folders are quoted.
-/

namespace MemShell

namespace Console

/-- Refusals are warnings, everything else is for debugging. -/
inductive Level where
  | debug
  | warn
deriving DecidableEq, Repr

def Level.ofEvent : Event → Level
  | .lineRefused _ | .editorCommandRefused _ | .desktopFolderRejected _ => .warn
  | _ => .debug

/-- The name of the level, five characters wide. -/
def Level.label : Level → String
  | debug => "DEBUG"
  | warn => " WARN"

/-- The part of the program that reports the event. -/
def area : Event → String
  | .directoryCreated _ | .directoryRemoved _ | .fileCreated _ _ | .fileRemoved _ _
  | .fileWritten _ _ _ => "webterm_core::filesystem"
  | .changedDirectory _ _ | .editorOpened _ _ => "webterm_core::commands::execute"
  | .editorClosed _ | .lineRefused _ | .editorCommandRefused _ => "webterm_core::session"
  | .desktopFolderCreated _ => "webterm_core::desktop"
  | .desktopFolderRejected _ => "webterm_web::components::desktop::context_menu"
  | .folderWindowOpened _ => "webterm_web::components::desktop::state"
  | .editorShortcut _ => "webterm_web::components::terminal::editor"

def message : Event → String
  | .directoryCreated _ => "directory created"
  | .directoryRemoved _ => "directory removed"
  | .fileCreated _ _ => "file created"
  | .fileRemoved _ _ => "file removed"
  | .fileWritten _ _ _ => "file written"
  | .changedDirectory _ _ => "changed directory"
  | .editorOpened _ _ => "editor opened"
  | .editorClosed _ => "editor closed"
  | .lineRefused _ => "command line refused while editor is open"
  | .editorCommandRefused _ => "editor command without an open editor"
  | .desktopFolderCreated _ => "desktop folder created"
  | .desktopFolderRejected _ => "desktop folder rejected"
  | .folderWindowOpened _ => "folder window opened"
  | .editorShortcut _ => "editor shortcut"

def commandLabel : EditorCommand → String
  | .save => "Save"
  | .exit => "Exit"

/-- The fields of an entry with their texts. -/
def fields : Event → List (String × String)
  | .directoryCreated path | .directoryRemoved path => [("path", path)]
  | .fileCreated dir name | .fileRemoved dir name | .editorOpened dir name =>
    [("dir", dir), ("file", name)]
  | .fileWritten dir name bytes =>
    [("dir", dir), ("file", name), ("bytes", String.ofList (Nat.toDigits 10 bytes))]
  | .changedDirectory source target => [("from", source), ("to", target)]
  | .editorClosed path => [("file", path)]
  | .lineRefused line => [("input", Text.quote line)]
  | .editorCommandRefused command => [("command", commandLabel command)]
  | .desktopFolderCreated name => [("name", Text.quote name)]
  | .desktopFolderRejected error => [("error", error.message)]
  | .folderWindowOpened name => [("folder", name)]
  | .editorShortcut key => [("key", key)]

/-- The text of an entry, without the blanks that its last field may end in. -/
def text (event : Event) : String :=
  Text.trimEnd ((Level.ofEvent event).label ++ " " ++ area event ++ ": " ++ message event ++
    String.join ((fields event).map fun (name, value) => " " ++ name ++ "=" ++ value))

end Console

end MemShell
