import MemShell.Toml.Scan

/-!
# TOML strings

There are four ways to write a string. A basic string stands between double quotes and knows
escapes, a literal string stands between single quotes and does not. Either may stand between
three quotes of its kind; then it may go over several lines, a line end just after the opening is
not part of it, and every line end in it counts as a line feed.
-/

namespace MemShell.Toml

/-- Characters that stand for themselves in a basic string. -/
def isBasicChar (c : Char) : Bool := isCommentChar c && c != '"' && c != '\\'

/-- Characters of a literal string. -/
def isLiteralChar (c : Char) : Bool := isCommentChar c && c != '\''

def hexValue? (c : Char) : Option Nat :=
  if c.isDigit then some (c.toNat - '0'.toNat)
  else if 'a' ≤ c ∧ c ≤ 'f' then some (c.toNat - 'a'.toNat + 10)
  else if 'A' ≤ c ∧ c ≤ 'F' then some (c.toNat - 'A'.toNat + 10)
  else none

/-- Exactly `count` hexadecimal digits, as a number behind the digits before them. -/
def hexDigits (count before : Nat) (cs : List Char) : Option (Nat × List Char) :=
  match count, cs with
  | 0, cs => some (before, cs)
  | _ + 1, [] => none
  | count + 1, c :: cs => (hexValue? c).bind fun d => hexDigits count (16 * before + d) cs

/-- A code point given by its hexadecimal digits. A surrogate is no character. -/
def codePoint (count : Nat) : Scan Char := fun cs => do
  let (n, rest) ← hexDigits count 0 cs
  if n.isValidChar then some (Char.ofNat n, rest) else none

/-- What a backslash is followed by. -/
def escape : Scan Char
  | 'b' :: cs => some ('\x08', cs)
  | 't' :: cs => some ('\t', cs)
  | 'n' :: cs => some ('\n', cs)
  | 'f' :: cs => some ('\x0c', cs)
  | 'r' :: cs => some ('\r', cs)
  | '"' :: cs => some ('"', cs)
  | '\\' :: cs => some ('\\', cs)
  | 'u' :: cs => codePoint 4 cs
  | 'U' :: cs => codePoint 8 cs
  | _ => none

/-- The text with one character more at its front. -/
def push (c : Char) (found : List Char × List Char) : List Char × List Char :=
  (c :: found.1, found.2)

/-- A basic string behind its opening quote. -/
def basicBody : Nat → Scan (List Char)
  | 0, _ => none
  | _ + 1, [] => none
  | fuel + 1, c :: cs =>
    if c = '"' then some ([], cs)
    else if c = '\\' then (escape cs).bind fun (e, rest) => (basicBody fuel rest).map (push e)
    else if isBasicChar c then (basicBody fuel cs).map (push c)
    else none

/-- A literal string behind its opening quote. -/
def literalBody : Scan (List Char)
  | [] => none
  | c :: cs =>
    if c = '\'' then some ([], cs)
    else if isLiteralChar c then (literalBody cs).map (push c)
    else none

/-- The end of a string between three quotes: up to two quotes more belong to its text. -/
def closing (quote : Char) (cs : List Char) : Option (List Char × List Char) := do
  let rest ← chars [quote, quote, quote] cs
  match chars [quote, quote] rest with
  | some rest => some ([quote, quote], rest)
  | none =>
    match char quote rest with
    | some rest => some ([quote], rest)
    | none => some ([], rest)

/-- A basic string of several lines behind its opening. A backslash at the end of a line drops the
blanks and line ends up to the next other character. -/
def multilineBasicBody : Nat → Scan (List Char)
  | 0, _ => none
  | _ + 1, [] => none
  | fuel + 1, c :: cs =>
    if c = '"' then
      match closing '"' (c :: cs) with
      | some found => some found
      | none => (multilineBasicBody fuel cs).map (push c)
    else if c = '\\' then
      match newline (spaces cs) with
      | some rest => multilineBasicBody fuel (gaps rest.length rest)
      | none => (escape cs).bind fun (e, rest) => (multilineBasicBody fuel rest).map (push e)
    else if isBasicChar c then (multilineBasicBody fuel cs).map (push c)
    else (newline (c :: cs)).bind fun rest => (multilineBasicBody fuel rest).map (push '\n')

/-- A literal string of several lines behind its opening. -/
def multilineLiteralBody : Nat → Scan (List Char)
  | 0, _ => none
  | _ + 1, [] => none
  | fuel + 1, c :: cs =>
    if c = '\'' then
      match closing '\'' (c :: cs) with
      | some found => some found
      | none => (multilineLiteralBody fuel cs).map (push c)
    else if isLiteralChar c then (multilineLiteralBody fuel cs).map (push c)
    else (newline (c :: cs)).bind fun rest => (multilineLiteralBody fuel rest).map (push '\n')

/-- The text without a line end at its front. -/
def afterNewline (cs : List Char) : List Char := (newline cs).getD cs

/-- A string on one line. -/
def simpleString : Scan (List Char)
  | '"' :: cs => basicBody (cs.length + 1) cs
  | '\'' :: cs => literalBody cs
  | _ => none

/-- A string of any kind. -/
def string : Scan (List Char)
  | '"' :: '"' :: '"' :: cs => multilineBasicBody (cs.length + 1) (afterNewline cs)
  | '\'' :: '\'' :: '\'' :: cs => multilineLiteralBody (cs.length + 1) (afterNewline cs)
  | cs => simpleString cs

end MemShell.Toml
