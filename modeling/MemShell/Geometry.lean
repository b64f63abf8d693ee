import MemShell.Decimal.Positional

/-!
# Layout geometry

Positions and sizes on the desktop. The rules do not depend on the kind of number that they are
computed with: the page computes with doubles, and exact rationals obey the same rules without
rounding. `Coordinate` is what the rules need to know of their numbers.
-/

namespace MemShell

/-- Numbers to lay out with. Only the order of two numbers is asked for, so a number that is not
comparable with others, as the double NaN, is neither too small nor too large. -/
class Coordinate (K : Type) extends Sub K, Mul K, LT K where
  ofNat : Nat → K
  half : K → K
  decLt : DecidableLT K

namespace Coordinate

instance (K : Type) [Coordinate K] : DecidableLT K := decLt

instance : Coordinate Float where
  ofNat n := n.toFloat
  half x := x / 2
  decLt := inferInstance

instance : Coordinate Rat where
  ofNat n := n
  half x := x / 2
  decLt := inferInstance

variable {K : Type} [Coordinate K]

/-- `x` if it is positive, else zero. -/
def atLeastZero (x : K) : K := if ofNat 0 < x then x else ofNat 0

/-- `x` moved to the nearer end if it lies outside of the range from `low` to `high`. -/
def clamp (low high x : K) : K := if x < low then low else if high < x then high else x

end Coordinate

open Coordinate

structure Point (K : Type) where
  x : K
  y : K
deriving DecidableEq, Repr

structure Size (K : Type) where
  width : K
  height : K
deriving DecidableEq, Repr

namespace Geometry

variable {K : Type} [Coordinate K]

def point (x y : Nat) : Point K := ⟨ofNat x, ofNat y⟩

def size (width height : Nat) : Size K := ⟨ofNat width, ofNat height⟩

/-- The box around a desktop icon and its label. -/
def iconSize : Size K := size 100 100

/-- Where a folder window appears. -/
def windowStart : Point K := point 120 80

/-- How large a folder window appears. -/
def windowStartSize : Size K := size 320 240

def windowMin : Size K := size 200 150

def windowMax : Size K := size 500 400

/-- How far right and down the corner of a box may be, so that the box stays in the viewport. A
box that is larger than the viewport has no room. -/
def room (box viewport : Size K) : Point K :=
  ⟨atLeastZero (viewport.width - box.width), atLeastZero (viewport.height - box.height)⟩

/-- The position next to `pos` at which the box lies in the viewport; a box that is larger goes to
the corner. -/
def intoViewport (pos : Point K) (box viewport : Size K) : Point K :=
  let limit := room box viewport
  ⟨clamp (ofNat 0) limit.x pos.x, clamp (ofNat 0) limit.y pos.y⟩

/-- The position at the given share of the room in either direction. -/
def scattered (viewport box : Size K) (share : Point K) : Point K :=
  let limit := room box viewport
  ⟨limit.x * clamp (ofNat 0) (ofNat 1) share.x, limit.y * clamp (ofNat 0) (ofNat 1) share.y⟩

/-- Where a box is dropped: centred on the pointer, inside the viewport. -/
def dropped (pointer : Point K) (box viewport : Size K) : Point K :=
  intoViewport ⟨pointer.x - half box.width, pointer.y - half box.height⟩ box viewport

/-- The pointer as seen from a corner. -/
def offset (pointer corner : Point K) : Point K := ⟨pointer.x - corner.x, pointer.y - corner.y⟩

/-- Where a box is dragged to that is held at `grab`, an offset from its corner. -/
def dragged (pointer grab : Point K) (box viewport : Size K) : Point K :=
  intoViewport (offset pointer grab) box viewport

/-- The size of a window at `corner` whose other corner is pulled to the pointer. -/
def resized (corner pointer : Point K) : Size K :=
  let pulled := offset pointer corner
  ⟨clamp (windowMin : Size K).width (windowMax : Size K).width pulled.x,
    clamp (windowMin : Size K).height (windowMax : Size K).height pulled.y⟩

end Geometry

/-! ## Style text -/

/-- The style that places an element at the point. -/
def Point.style (p : Point Float) : String :=
  "left: " ++ Decimal.floatText p.x ++ "px; top: " ++ Decimal.floatText p.y ++ "px;"

/-- The style that gives an element the size. -/
def Size.style (s : Size Float) : String :=
  "width: " ++ Decimal.floatText s.width ++ "px; height: " ++ Decimal.floatText s.height ++ "px;"

end MemShell
