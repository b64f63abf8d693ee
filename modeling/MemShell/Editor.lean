import MemShell.Path

/-!
# The editor

A session is either prompting for command lines or editing one file. The editor keeps the
directory and the file name that it was opened on, so a save goes there whatever happens to the
session in between.
-/

namespace MemShell

/-- The control inputs of the editor. -/
inductive EditorCommand where
  /-- Write the buffer to the file and stay open. -/
  | save
  /-- Leave the editor. -/
  | exit
deriving DecidableEq, Repr

/-- Ctrl+S saves and Ctrl+X leaves, in either case of the letter; without Ctrl a key is text. -/
def EditorCommand.ofKey? (ctrl : Bool) (key : String) : Option EditorCommand :=
  if ctrl = false then none
  else if key = "s" ∨ key = "S" then some .save
  else if key = "x" ∨ key = "X" then some .exit
  else none

structure Editor where
  dir : String
  file : String
  buffer : String
  /-- The last message of the editor, such as the confirmation of a save. -/
  status : Option String
deriving DecidableEq, Repr

namespace Editor

def «open» (dir file content : String) : Editor := ⟨dir, file, content, none⟩

def setBuffer (editor : Editor) (text : String) : Editor := { editor with buffer := text }

/-- The path of the edited file: its directory's path and its name. -/
def path (editor : Editor) : String := editor.dir ++ editor.file

def title (editor : Editor) : String := "nano  " ++ Path.display editor.path

/-- What an empty buffer looks like: twenty lines with a tilde. It is never saved. -/
def placeholder : String := String.join (List.replicate 20 "~\n")

def display (editor : Editor) : String :=
  if editor.buffer = "" then placeholder else editor.buffer

end Editor

/-- What the session does with input. -/
inductive Mode where
  | prompting
  | editing (editor : Editor)
deriving DecidableEq, Repr

namespace Mode

def editor? : Mode → Option Editor
  | prompting => none
  | editing editor => some editor

def isEditing (mode : Mode) : Bool := mode.editor?.isSome

end Mode

end MemShell
