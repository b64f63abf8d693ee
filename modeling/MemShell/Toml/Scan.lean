/-!
# Scanning TOML text

A scanner takes what it recognises from the front of the text and gives back the rest, or nothing
if the text does not start that way. The scanners here are those for the blanks, comments and line
ends that every part of a document needs.
-/

namespace MemShell.Toml

/-- Recognises something at the front of a text. -/
abbrev Skip := List Char → Option (List Char)

/-- Reads something at the front of a text. -/
abbrev Scan (α : Type) := List Char → Option (α × List Char)

def isSpace (c : Char) : Bool := c == ' ' || c == '\t'

/-- Characters that a comment may hold: no control characters but the tab. -/
def isCommentChar (c : Char) : Bool :=
  c == '\t' || (0x20 ≤ c.toNat && c.toNat ≤ 0x7E) || 0x80 ≤ c.toNat

/-- The text after the spaces and tabs that it starts with. -/
def spaces (cs : List Char) : List Char := cs.dropWhile isSpace

/-- The given character. -/
def char (c : Char) : Skip
  | [] => none
  | d :: cs => if d = c then some cs else none

/-- The given characters. -/
def chars : List Char → Skip
  | [], cs => some cs
  | w :: ws, cs => (char w cs).bind (chars ws)

/-- A line end: a line feed, perhaps behind a carriage return. -/
def newline : Skip
  | '\n' :: cs => some cs
  | '\r' :: '\n' :: cs => some cs
  | _ => none

/-- A line end, or the end of the text. -/
def lineEnd : Skip
  | [] => some []
  | cs => newline cs

def comment : Skip
  | '#' :: cs => some (cs.dropWhile isCommentChar)
  | _ => none

/-- What may stand between the end of a statement and that of its line. -/
def lineTrailing (cs : List Char) : Option (List Char) :=
  let rest := spaces cs
  lineEnd ((comment rest).getD rest)

/-- Spaces, tabs and line ends, at most `fuel` of them. -/
def gaps (fuel : Nat) (cs : List Char) : List Char :=
  match fuel with
  | 0 => cs
  | fuel + 1 =>
    match newline (spaces cs) with
    | some rest => gaps fuel rest
    | none => spaces cs

/-- Spaces, tabs, line ends and comments, each of which has to end its line. -/
def openGaps (fuel : Nat) (cs : List Char) : Option (List Char) :=
  match fuel with
  | 0 => none
  | fuel + 1 =>
    match spaces cs with
    | '#' :: rest => (newline (rest.dropWhile isCommentChar)).bind (openGaps fuel)
    | '\n' :: rest => openGaps fuel rest
    | '\r' :: '\n' :: rest => openGaps fuel rest
    | '\r' :: _ => none
    | rest => some rest

end MemShell.Toml
