/-!
# Rectangles

The rectangle of an element on the screen. Sizes may be negative, as a page source can carry them.
-/

namespace ElementFinder

/-- A rectangle by its upper left corner and its size. -/
structure Bounds where
  x : Int := 0
  y : Int := 0
  width : Int := 0
  height : Int := 0
  deriving DecidableEq, Repr, Inhabited

namespace Bounds

def right (b : Bounds) : Int := b.x + b.width

/-- The lower edge. -/
def bottom (b : Bounds) : Int := b.y + b.height

/-- The middle, rounded down. -/
def center (b : Bounds) : Int × Int := (b.x + b.width.fdiv 2, b.y + b.height.fdiv 2)

/-- The point lies inside; the right and the lower edge are outside. -/
def containsPoint (b : Bounds) (x y : Int) : Bool :=
  b.x ≤ x && x < b.right && b.y ≤ y && y < b.bottom

/-- The other rectangle lies inside; edges may touch. -/
def contains (b other : Bounds) : Bool :=
  b.x ≤ other.x && b.y ≤ other.y && other.right ≤ b.right && other.bottom ≤ b.bottom

def centerInside (b other : Bounds) : Bool :=
  other.containsPoint b.center.1 b.center.2

end Bounds

end ElementFinder
