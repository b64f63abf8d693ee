import MemShell.Settings
import MemShell.Text.Lines
import MemShell.Toml.Document

/-!
# Settings from a file

A settings file is a TOML document whose keys `user` and `host` are strings. A key that is missing
leaves the standard setting; other keys and tables are ignored.
-/

namespace MemShell

/-- Why a file has no text. -/
inductive FileFault where
  | missing
  | isDirectory
  /-- A part of the path that is not the last is no directory. -/
  | notDirectory
  /-- The bytes are not UTF-8. -/
  | notText
  | other (reason : String)
deriving DecidableEq, Repr

def FileFault.message : FileFault → String
  | missing => "No such file or directory (os error 2)"
  | isDirectory => "Is a directory (os error 21)"
  | notDirectory => "Not a directory (os error 20)"
  | notText => "stream did not contain valid UTF-8"
  | other reason => reason

/-- Why there are no settings. -/
inductive SettingsError where
  | unreadable (path : String) (fault : FileFault)
  /-- The file is no TOML document, or a name in it is no string. -/
  | malformed (path : String)
deriving DecidableEq, Repr

def SettingsError.message : SettingsError → String
  | unreadable path fault => "failed to read config " ++ path ++ ": " ++ fault.message
  | malformed path => "invalid config " ++ path

namespace Settings

/-- The string of a key, the standard one if the key is missing. -/
def nameOf (entries : Toml.Entries) (key standard : String) : Option String :=
  match entries.lookup key with
  | none => some standard
  | some (.value (.string text)) => some text
  | some _ => none

def ofEntries? (entries : Toml.Entries) : Option Settings := do
  let user ← nameOf entries "user" standard.user
  let host ← nameOf entries "host" standard.host
  some ⟨user, host⟩

/-- The settings that the content of a file gives. -/
def ofContent (path : String) (content : Except FileFault (List UInt8)) :
    Except SettingsError Settings :=
  match content with
  | .error fault => .error (.unreadable path fault)
  | .ok bytes =>
    match Text.ofBytes? bytes with
    | none => .error (.unreadable path .notText)
    | some text =>
      match (Toml.parse? text).bind ofEntries? with
      | none => .error (.malformed path)
      | some settings => .ok settings

/-- The settings of the file, or the standard ones without a file; `user` and `host` override
them. -/
def load (file : Option (String × Except FileFault (List UInt8))) (user host : Option String) :
    Except SettingsError Settings :=
  match file with
  | none => .ok (standard.override user host)
  | some (path, content) => (ofContent path content).map (·.override user host)

end Settings

end MemShell
