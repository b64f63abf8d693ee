import MemShell.Toml.Text

/-!
# TOML numbers, dates and times

Settings hold no numbers, so what is read here is only checked. An integer has to fit into
sixty-four bits with a sign, and a positive float must not be so large that the nearest double is
infinite. A date has to be in the calendar; a minute may have a second 60.
-/

namespace MemShell.Toml

/-! ## Digits -/

/-- The digits behind a first one; an underscore may stand between two digits. -/
def moreDigits (isDigit : Char → Bool) : List Char → Option (List Char × List Char)
  | [] => some ([], [])
  | '_' :: cs =>
    match cs with
    | [] => none
    | c :: _ => if isDigit c then moreDigits isDigit cs else none
  | c :: cs =>
    if isDigit c then (moreDigits isDigit cs).map (push c) else some ([], c :: cs)

/-- One digit or more. -/
def digits (isDigit : Char → Bool) : Scan (List Char)
  | [] => none
  | c :: cs => if isDigit c then (moreDigits isDigit cs).map (push c) else none

/-- A sign, which is true for minus. -/
def sign : List Char → Bool × List Char
  | '-' :: cs => (true, cs)
  | '+' :: cs => (false, cs)
  | cs => (false, cs)

/-- Decimal digits with no zero in front of others. -/
def wholeDigits : Scan (List Char)
  | '0' :: cs => some (['0'], cs)
  | cs => digits Char.isDigit cs

/-- The number that digits of the given base write. -/
def digitsValue (base : Nat) (ds : List Char) : Nat :=
  ds.foldl (fun n c => base * n + (hexValue? c).getD 0) 0

/-! ## Integers -/

/-- The largest integer. -/
def maxInteger : Nat := 0x7FFFFFFFFFFFFFFF

/-- A number of the given base behind its mark. -/
def basedInteger (base : Nat) (isDigit : Char → Bool) (cs : List Char) : Option (List Char) := do
  let (ds, rest) ← digits isDigit cs
  if digitsValue base ds ≤ maxInteger then some rest else none

def decimalInteger (cs : List Char) : Option (List Char) := do
  let (negative, cs) := sign cs
  let (ds, rest) ← wholeDigits cs
  if digitsValue 10 ds ≤ maxInteger + (if negative then 1 else 0) then some rest else none

def isOctal (c : Char) : Bool := '0' ≤ c && c ≤ '7'

def isBinary (c : Char) : Bool := c == '0' || c == '1'

def integer : Skip
  | '0' :: 'x' :: cs => basedInteger 16 (fun c => (hexValue? c).isSome) cs
  | '0' :: 'o' :: cs => basedInteger 8 isOctal cs
  | '0' :: 'b' :: cs => basedInteger 2 isBinary cs
  | cs => decimalInteger cs

/-! ## Floats -/

/-- The least number whose nearest double is infinite. -/
def infiniteFrom : Nat := (Nat.pow 2 54 - 1) * Nat.pow 2 970

/-- `m * 10 ^ e` is so large that its nearest double is infinite. Only near the limit, which has
309 digits, are powers of ten computed. -/
def isInfinite (m : Nat) (e : Int) : Bool :=
  let size : Int := (Nat.toDigits 10 m).length + e
  if m = 0 || size < 300 then false
  else if 320 < size then true
  else infiniteFrom * Nat.pow 10 (-e).toNat ≤ m * Nat.pow 10 e.toNat

/-- An exponent with its mark. -/
def exponent : Scan Int
  | c :: cs =>
    if c = 'e' || c = 'E' then do
      let (negative, cs) := sign cs
      let (ds, rest) ← digits Char.isDigit cs
      let n : Int := digitsValue 10 ds
      some (if negative then -n else n, rest)
    else none
  | [] => none

/-- A fraction with its point. -/
def fraction : Scan (List Char)
  | '.' :: cs => digits Char.isDigit cs
  | _ => none

/-- The digits behind the point and the exponent; one of the two has to be there. -/
def floatTail (cs : List Char) : Option ((List Char × Int) × List Char) :=
  match fraction cs with
  | some (ds, rest) =>
    match exponent rest with
    | some (e, rest) => some ((ds, e), rest)
    | none => some ((ds, 0), rest)
  | none => (exponent cs).map fun (e, rest) => (([], e), rest)

def finiteFloat (cs : List Char) : Option (List Char) := do
  let (negative, cs) := sign cs
  let (whole, rest) ← wholeDigits cs
  let ((frac, e), rest) ← floatTail rest
  let infinite := isInfinite (digitsValue 10 (whole ++ frac)) (e - frac.length)
  if infinite && !negative then none else some rest

/-- The floats that are words. -/
def specialFloat (cs : List Char) : Option (List Char) :=
  let (_, cs) := sign cs
  (chars ['i', 'n', 'f'] cs).or (chars ['n', 'a', 'n'] cs)

def float (cs : List Char) : Option (List Char) := (finiteFloat cs).or (specialFloat cs)

/-! ## Dates and times -/

/-- Exactly `count` digits, as a number in the given range. -/
def fixed (count low high : Nat) : Scan Nat := fun cs =>
  let ds := cs.take count
  let n := digitsValue 10 ds
  if ds.length = count && ds.all Char.isDigit && low ≤ n && n ≤ high then some (n, cs.drop count)
  else none

def isLeapYear (year : Nat) : Bool := year % 4 = 0 && (year % 100 ≠ 0 || year % 400 = 0)

def daysInMonth (year month : Nat) : Nat :=
  if month = 2 then (if isLeapYear year then 29 else 28)
  else if month = 4 || month = 6 || month = 9 || month = 11 then 30
  else 31

def date (cs : List Char) : Option (List Char) := do
  let (year, cs) ← fixed 4 0 9999 cs
  let (month, cs) ← fixed 2 1 12 (← char '-' cs)
  let (_, cs) ← fixed 2 1 (daysInMonth year month) (← char '-' cs)
  some cs

/-- A time of day, perhaps with a fraction of a second. -/
def time (cs : List Char) : Option (List Char) := do
  let (_, cs) ← fixed 2 0 23 cs
  let (_, cs) ← fixed 2 0 59 (← char ':' cs)
  let (_, cs) ← fixed 2 0 60 (← char ':' cs)
  match cs with
  | '.' :: c :: rest => if c.isDigit then some (rest.dropWhile Char.isDigit) else some cs
  | _ => some cs

/-- How far the time is from universal time. -/
def offset : Skip
  | 'Z' :: cs | 'z' :: cs => some cs
  | '+' :: cs | '-' :: cs => do
    let (_, cs) ← fixed 2 0 23 cs
    let (_, cs) ← fixed 2 0 59 (← char ':' cs)
    some cs
  | _ => none

/-- A time behind the mark that parts it from a date, with its offset if it has one. -/
def timeOfDate : Skip
  | 'T' :: cs | 't' :: cs | ' ' :: cs => do
    let rest ← time cs
    some ((offset rest).getD rest)
  | _ => none

/-- A date, a date with a time, or a time. -/
def dateTime (cs : List Char) : Option (List Char) :=
  match date cs with
  | some rest => some ((timeOfDate rest).getD rest)
  | none => time cs

/-- Anything that begins with a sign or a digit. -/
def numeric (cs : List Char) : Option (List Char) :=
  (dateTime cs).or ((float cs).or (integer cs))

end MemShell.Toml
