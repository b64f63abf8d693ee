import MemShell.Editor
import MemShell.FileSystem.Error

/-!
# Events

Every operation reports what it did as a list of events, oldest first. They are the audit trail
of a session: what was made, written or removed, and what was refused. How the browser console
words them is said in `Console`.
-/

namespace MemShell

inductive Event where
  | directoryCreated (path : String)
  | directoryRemoved (path : String)
  | fileCreated (dir name : String)
  | fileRemoved (dir name : String)
  /-- The content of a file was replaced; `bytes` is its new length in UTF-8. -/
  | fileWritten (dir name : String) (bytes : Nat)
  | changedDirectory (source target : String)
  | editorOpened (dir name : String)
  | editorClosed (path : String)
  /-- A command line arrived while the editor was open. -/
  | lineRefused (line : String)
  /-- An editor command arrived while no editor was open. -/
  | editorCommandRefused (command : EditorCommand)
  | desktopFolderCreated (name : String)
  | desktopFolderRejected (error : FsError)
  | folderWindowOpened (name : String)
  | editorShortcut (key : String)
deriving DecidableEq, Repr

/-- What an operation gives back: its answer, the state that it leaves, and the events that it
reports, oldest first. -/
structure Outcome (σ α : Type) where
  value : α
  state : σ
  events : List Event

end MemShell
