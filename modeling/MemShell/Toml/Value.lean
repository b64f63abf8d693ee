import MemShell.Toml.Number
import MemShell.Toml.Table

/-!
# TOML keys and values

Arrays and inline tables hold values, but not without limit: `maxDepth` says how deep they may lie
in each other, and a dotted key has no more parts than that.
-/

namespace MemShell.Toml

/-- How many arrays and inline tables may lie in each other. -/
def maxDepth : Nat := 79

def isBareKeyChar (c : Char) : Bool := c.isAlphanum || c == '_' || c == '-'

/-- A key without dots: bare, or a string on one line. -/
def simpleKey : Scan String
  | [] => none
  | c :: cs =>
    if c = '"' ∨ c = '\'' then
      (simpleString (c :: cs)).map fun (k, rest) => (String.ofList k, rest)
    else if isBareKeyChar c then
      some (String.ofList ((c :: cs).takeWhile isBareKeyChar), (c :: cs).dropWhile isBareKeyChar)
    else none

/-- The parts of a key, with blanks around each. -/
def keyParts : Nat → Scan (List String)
  | 0, _ => none
  | fuel + 1, cs => do
    let (part, rest) ← simpleKey (spaces cs)
    match spaces rest with
    | '.' :: rest => (keyParts fuel rest).map fun (parts, rest) => (part :: parts, rest)
    | rest => some ([part], rest)

/-- A key that leads to its last part through the others. -/
def key : Scan (List String × String) := fun cs => do
  let (parts, rest) ← keyParts (maxDepth + 1) cs
  let last ← parts.getLast?
  if parts.length ≤ maxDepth then some ((parts.dropLast, last), rest) else none

/-- The elements of an array behind its bracket, up to the closing one. -/
def elements (value : Skip) : Nat → Skip
  | 0, _ => none
  | fuel + 1, cs => do
    match ← openGaps (cs.length + 1) cs with
    | ']' :: rest => some rest
    | cs =>
      let rest ← value cs
      match ← openGaps (rest.length + 1) rest with
      | ']' :: rest => some rest
      | ',' :: rest => elements value fuel rest
      | _ => none

/-- A key with its value, and the blanks behind it. -/
def keyValue (value : Scan Value) : Scan ((List String × String) × Value) := fun cs => do
  let (k, rest) ← key cs
  let (v, rest) ← value (spaces (← char '=' rest))
  some ((k, v), spaces rest)

/-- The keys and values of an inline table that is not empty, up to its closing brace. -/
def pairs (value : Scan Value) : Nat → Entries → Skip
  | 0, _, _ => none
  | fuel + 1, entries, cs => do
    let ((k, v), rest) ← keyValue value cs
    let entries ← entries.define k.1 k.2 v
    match rest with
    | '\x7d' :: rest => some rest
    | ',' :: rest => pairs value fuel entries rest
    | _ => none

/-- An inline table behind its brace. -/
def inlineTable (value : Scan Value) : Skip := fun cs =>
  match spaces cs with
  | '\x7d' :: rest => some rest
  | cs => pairs value (cs.length + 1) [] cs

/-- A value of which only is kept that it is there. -/
def asOther (skip : Skip) : Scan Value := fun cs => (skip cs).map fun rest => (.other, rest)

/-- A value that holds no others. -/
def scalar : Scan Value
  | [] => none
  | c :: cs =>
    if c = '"' ∨ c = '\'' then
      (string (c :: cs)).map fun (text, rest) => (.string (String.ofList text), rest)
    else if c.isDigit ∨ c = '+' ∨ c = '-' then asOther numeric (c :: cs)
    else if c = 't' then asOther (chars ['t', 'r', 'u', 'e']) (c :: cs)
    else if c = 'f' then asOther (chars ['f', 'a', 'l', 's', 'e']) (c :: cs)
    else asOther specialFloat (c :: cs)

/-- A value in which others lie no deeper than `depth`. -/
def valueWithin : Nat → Scan Value
  | 0, cs => scalar cs
  | depth + 1, cs =>
    match cs with
    | '[' :: rest =>
      asOther (elements (fun cs => (valueWithin depth cs).map (·.2)) (rest.length + 1)) rest
    | '\x7b' :: rest => asOther (inlineTable (valueWithin depth)) rest
    | cs => scalar cs

def value : Scan Value := valueWithin maxDepth

end MemShell.Toml
