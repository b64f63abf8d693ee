import MemShell.Decimal.Binary64

/-!
# Positional text of a number

Numbers are written with the fewest digits that read back, without an exponent and without a
fraction that is zero. The sign of a zero is kept.
-/

namespace MemShell.Decimal

/-- The digits with a point `places` from their right end, and without the zeros that a fraction
would end in. -/
def pointed (digits : List Char) (places : Nat) : List Char :=
  let padded := List.replicate (places + 1 - digits.length) '0' ++ digits
  let whole := padded.take (padded.length - places)
  let fraction := (padded.drop (padded.length - places)).reverse.dropWhile (· == '0')
  if fraction.isEmpty then whole else whole ++ '.' :: fraction.reverse

def Scaled.text (d : Scaled) : String :=
  let digits := Nat.toDigits 10 d.digits
  if 0 ≤ d.exponent then String.ofList (digits ++ List.replicate d.exponent.toNat '0')
  else String.ofList (pointed digits (-d.exponent).toNat)

def signText (negative : Bool) : String := if negative then "-" else ""

def Double.text : Double → String
  | notANumber => "NaN"
  | infinite negative => signText negative ++ "inf"
  | finite negative mantissa exponent tight =>
    if mantissa = 0 then signText negative ++ "0"
    else signText negative ++ (shortest (interval mantissa exponent tight)).text

/-- The text of a double. -/
def floatText (x : Float) : String := (Double.ofFloat x).text

end MemShell.Decimal
