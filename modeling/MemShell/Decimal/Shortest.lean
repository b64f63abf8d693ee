/-!
# The shortest decimal in an interval

A binary number stands for every real that rounds to it, and its text is the shortest decimal
among those. The reals are given as an interval over a common denominator, with the number itself
between the ends.

`shortest` tests the two neighbours of the number on ever finer decimal grids. If a point of a
grid lies in the interval, so does one of the two neighbours, so the first grid with a hit has
the fewest digits that will do. Of two hits the nearer is taken, and the upper one if both are
equally near.
-/

namespace MemShell.Decimal

/-- The reals that round to a positive number: `lower / unit` to `upper / unit`, with the number
itself at `value / unit`. The ends belong to it if `closed`. -/
structure Interval where
  lower : Nat
  value : Nat
  upper : Nat
  unit : Nat
  closed : Bool
deriving DecidableEq, Repr

/-- The number `digits * 10 ^ exponent`. -/
structure Scaled where
  digits : Nat
  exponent : Int
deriving DecidableEq, Repr

/-- How many decimal digits a number has; zero has one. -/
def digitCount (n : Nat) : Nat := (Nat.toDigits 10 n).length

/-- The exponent of the decade above the value: the value is less than ten to this power and at
least a tenth of it. -/
def decade (i : Interval) : Int :=
  if i.unit ≤ i.value then digitCount (i.value / i.unit)
  else 1 - (digitCount ((i.unit - 1) / i.value) : Int)

/-- Ten to the given power, as numerator and denominator. -/
def powerOfTen (e : Int) : Nat × Nat := (Nat.pow 10 e.toNat, Nat.pow 10 (-e).toNat)

/-- The decimal lies in the interval. -/
def Interval.holds (i : Interval) (d : Scaled) : Bool :=
  let (num, den) := powerOfTen d.exponent
  let point := d.digits * num * i.unit
  if i.closed then i.lower * den ≤ point && point ≤ i.upper * den
  else i.lower * den < point && point < i.upper * den

/-- Of the neighbours `k` and `k + 1` on the grid of the exponent, the nearer to the value. -/
def nearer (i : Interval) (k : Nat) (exponent : Int) : Scaled :=
  let (num, den) := powerOfTen exponent
  if 2 * i.value * den < (2 * k + 1) * num * i.unit then ⟨k, exponent⟩ else ⟨k + 1, exponent⟩

/-- The hit on the grid of the exponent, if there is one. -/
def onGrid (i : Interval) (exponent : Int) : Option Scaled :=
  let (num, den) := powerOfTen exponent
  let k := i.value * den / (num * i.unit)
  match i.holds ⟨k, exponent⟩, i.holds ⟨k + 1, exponent⟩ with
  | true, true => some (nearer i k exponent)
  | true, false => some ⟨k, exponent⟩
  | false, true => some ⟨k + 1, exponent⟩
  | false, false => none

/-- The first hit on the grids for `count` digits and more, with `fuel` grids to try. -/
def search (i : Interval) (fuel count : Nat) : Option Scaled :=
  match fuel with
  | 0 => none
  | fuel + 1 => (onGrid i (decade i - count)).or (search i fuel (count + 1))

/-- The digits that a double never needs more of. -/
def maxDigits : Nat := 17

/-- The shortest decimal in the interval. -/
def shortest (i : Interval) : Scaled :=
  (search i maxDigits 1).getD ⟨0, 0⟩

end MemShell.Decimal
