import MemShell.Toml.Value

/-!
# TOML documents

A document is read statement by statement: a key with its value adds to the table that was opened
last, and a header opens a table. Anything that is not TOML 1.0 makes the document unreadable.
-/

namespace MemShell.Toml

/-- What has been read of a document. -/
structure Reading where
  entries : Entries
  /-- Where the table is that was opened last. -/
  place : List String

/-- The end of a statement. -/
def endStatement (reading : Reading) (rest : List Char) : Option (Reading × List Char) :=
  (lineTrailing rest).map fun rest => (reading, rest)

/-- A header of an array of tables behind its brackets. -/
def elementHeader (reading : Reading) (cs : List Char) : Option (Reading × List Char) := do
  let ((path, last), rest) ← key cs
  let rest ← chars [']', ']'] rest
  let entries ← reading.entries.openElement path last
  endStatement ⟨entries, path ++ [last]⟩ rest

/-- A header of a table behind its bracket. -/
def tableHeader (reading : Reading) (cs : List Char) : Option (Reading × List Char) := do
  let ((path, last), rest) ← key cs
  let rest ← char ']' rest
  let entries ← reading.entries.openTable path last
  endStatement ⟨entries, path ++ [last]⟩ rest

def keyStatement (reading : Reading) (cs : List Char) : Option (Reading × List Char) := do
  let (((path, last), v), rest) ← keyValue value cs
  let entries ← reading.entries.defineAt reading.place path last v
  endStatement { reading with entries } rest

/-- One statement, or a line without one. -/
def statement (reading : Reading) (cs : List Char) : Option (Reading × List Char) :=
  match cs with
  | '#' :: _ | '\n' :: _ | '\r' :: _ => endStatement reading cs
  | '[' :: '[' :: rest => elementHeader reading rest
  | '[' :: rest => tableHeader reading rest
  | cs => keyStatement reading cs

/-- Statements up to the end of the text. -/
def statements : Nat → Reading → List Char → Option Entries
  | 0, _, _ => none
  | fuel + 1, reading, cs =>
    match spaces cs with
    | [] => some reading.entries
    | cs => (statement reading cs).bind fun (reading, rest) => statements fuel reading rest

/-- The text without a byte order mark at its front. -/
def withoutMark : List Char → List Char
  | '\ufeff' :: cs => cs
  | cs => cs

/-- The entries of a document, `none` if the text is no document. -/
def parse? (text : String) : Option Entries :=
  let cs := withoutMark text.toList
  statements (cs.length + 1) ⟨[], []⟩ cs

end MemShell.Toml
