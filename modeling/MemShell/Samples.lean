import MemShell.Geometry

/-!
# Samples

A source of numbers that hands out the given samples in turn, over and over. A source without
samples hands out one half.
-/

namespace MemShell

structure Samples (K : Type) where
  values : List K
  /-- How many samples have been handed out. -/
  drawn : Nat
deriving Repr

namespace Samples

variable {K : Type} [Coordinate K]

def ofList (values : List K) : Samples K := ⟨values, 0⟩

def next (s : Samples K) : K × Samples K :=
  (s.values.getD (s.drawn % s.values.length) (Coordinate.half (Coordinate.ofNat 1)),
    { s with drawn := s.drawn + 1 })

/-- Two samples, the horizontal one first. -/
def nextPoint (s : Samples K) : Point K × Samples K :=
  let (x, s) := s.next
  let (y, s) := s.next
  (⟨x, y⟩, s)

/-- Each name with a point of its own. -/
def scatter (s : Samples K) : List String → List (String × Point K) × Samples K
  | [] => ([], s)
  | name :: names =>
    let (share, s) := s.nextPoint
    let (rest, s) := s.scatter names
    ((name, share) :: rest, s)

end Samples

end MemShell
