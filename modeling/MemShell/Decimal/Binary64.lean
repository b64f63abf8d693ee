import MemShell.Decimal.Shortest

/-!
# Reading a double

The sixty-four bits of a double are a sign, eleven bits of exponent and fifty-two of fraction.
-/

namespace MemShell.Decimal

/-- What the bits of a double say. A finite number is `mantissa * 2 ^ exponent`; `tight` says that
its lower neighbour is only half as far away as its upper one. -/
inductive Double where
  | notANumber
  | infinite (negative : Bool)
  | finite (negative : Bool) (mantissa : Nat) (exponent : Int) (tight : Bool)
deriving DecidableEq, Repr

namespace Double

def ofBits (bits : UInt64) : Double :=
  let n := bits.toNat
  let negative := n / 0x8000000000000000 == 1
  let biased : Nat := n / 0x10000000000000 % 0x800
  let fraction := n % 0x10000000000000
  if biased = 2047 then (if fraction = 0 then infinite negative else notANumber)
  else if biased = 0 then finite negative fraction (-1074) false
  else
    finite negative (0x10000000000000 + fraction) ((biased : Int) - 1075)
      (fraction = 0 && 1 < biased)

def ofFloat (x : Float) : Double := ofBits x.toBits

/-- The reals that round to `mantissa * 2 ^ exponent`: up to halfway to either neighbour, the
halfway points included if the mantissa is even. -/
def interval (mantissa : Nat) (exponent : Int) (tight : Bool) : Interval :=
  let quarter := Nat.pow 2 (exponent - 2).toNat
  { lower := (4 * mantissa - (if tight then 1 else 2)) * quarter
    value := 4 * mantissa * quarter
    upper := (4 * mantissa + 2) * quarter
    unit := Nat.pow 2 (2 - exponent).toNat
    closed := mantissa % 2 = 0 }

end Double

end MemShell.Decimal
