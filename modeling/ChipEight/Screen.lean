/-
The picture: a grid of pixels that sprites are drawn onto.

Drawing flips pixels, so drawing the same thing twice takes it away again.  A row of
a sprite wraps around the right edge, while rows above or below the picture are not
drawn at all.

Pixels are numbered row by row, and the number of a pixel is its *index*.  Columns
and rows wrap, by the remainder that takes the sign of the divisor, and an index
below zero counts from the last pixel backward.

A display is handed changes only.  `pending` holds every pixel that changed since the
last time, with the state it changed to; clearing and invalidating make all pixels
pending, so that the next display to look sees the whole picture.
-/
import Std.Data.TreeMap.Basic

namespace ChipEight

/-- A place in the picture. -/
structure Point where
  x : Int
  y : Int
  deriving DecidableEq, Repr, Inhabited

/-- Places are read row by row, and each row from left to right. -/
instance : Ord Point := ⟨compareLex (compareOn Point.y) (compareOn Point.x)⟩

/-- What a display is asked to paint: places and the number of their colour, where `0` is
the colour of a pixel that is off and `1` that of one that is on. -/
abbrev Paint := List (Point × Int)

/-- The pixels of a picture and the changes that no display has seen yet. -/
structure Screen where
  width : Int
  height : Int
  pixels : Array Bool
  pending : Std.TreeMap Int Bool

namespace Screen

def standardWidth : Int := 64

def standardHeight : Int := 32

/-- The most pixels there can be, as many as 28 bits can number. -/
def mostPixels : Int := 0x10000000

/-- Every pixel, by index, with its state. -/
def allPending (pixels : Array Bool) : Std.TreeMap Int Bool :=
  (List.range pixels.size).foldl
    (fun pending (i : Nat) => pending.insert (i : Int) (pixels.getD i false)) ∅

/-- All pixels off, and all of them pending. -/
def blank (width height : Int) : Screen :=
  let pixels := Array.replicate (width * height).toNat false
  ⟨width, height, pixels, allPending pixels⟩

/-- A blank picture, if there can be one of these dimensions. -/
def blank? (width height : Int) : Option Screen :=
  if width * height < 0 ∨ mostPixels < width * height then none else some (blank width height)

def standard : Screen := blank standardWidth standardHeight

/-! ### Single pixels -/

/-- The index of the pixel at a place, or `none` if the picture has no columns or no rows to
wrap around. -/
def index? (s : Screen) (x y : Int) : Option Int :=
  if s.width = 0 ∨ s.height = 0 then none
  else some (Int.fmod y s.height * s.width + Int.fmod x s.width)

/-- Where the pixel with an index is stored. -/
def slot (s : Screen) (index : Int) : Nat :=
  if index < 0 then (index + s.pixels.size).toNat else index.toNat

/-- Whether there is a pixel with an index, counted from either end. -/
def hasPixel (s : Screen) (index : Int) : Bool :=
  -(s.pixels.size : Int) ≤ index && index < s.pixels.size

/-- The index of the pixel that is drawn on at a place, if there is one to draw on. -/
def target? (s : Screen) (x y : Int) : Option Int := (s.index? x y).filter s.hasPixel

/-- Whether the pixel with an index is on. -/
def lit (s : Screen) (index : Int) : Bool := s.pixels.getD (s.slot index) false

def pixel? (s : Screen) (x y : Int) : Option Bool := (s.target? x y).map s.lit

/-- The picture with one pixel turned around. -/
def flip (s : Screen) (index : Int) : Screen :=
  let now := !s.lit index
  { s with
    pixels := s.pixels.setIfInBounds (s.slot index) now
    pending := s.pending.insert index now }

def toggle? (s : Screen) (x y : Int) : Option Screen := (s.target? x y).map s.flip

/-! ### Rows of sprites -/

/-- The columns, counted from the left, that a row of eight pixels turns around: column `i`
is bit `7 - i`. -/
def rowColumns (row : Int) : List Nat :=
  (List.range 8).filter fun i => row >>> (7 - i) % 2 = 1

/-- The pixels that a row of a sprite turns around, in drawing order. -/
def rowHits? (s : Screen) (x y row : Int) : Option (List Int) :=
  if y < 0 ∨ s.height ≤ y then some []
  else (rowColumns row).mapM fun (i : Nat) => s.target? (x + (i : Int)) y

/-- Turns pixels around one after the other.  The answer is true if one of them was on when
its turn came. -/
def flipAll (s : Screen) : List Int → Screen × Bool
  | [] => (s, false)
  | index :: rest =>
    let on := s.lit index
    let (drawn, collision) := flipAll (s.flip index) rest
    (drawn, on || collision)

/-- Draws one row of a sprite, and tells whether a pixel was turned off by it. -/
def drawRow? (s : Screen) (x y row : Int) : Option (Screen × Bool) :=
  (s.rowHits? x y row).map s.flipAll

/-- Draws the rows of a sprite downward from `y`, and tells whether any of them turned a
pixel off. -/
def drawSprite? (s : Screen) (x y : Int) : List UInt8 → Option (Screen × Bool)
  | [] => some (s, false)
  | row :: rest => do
    let (s, here) ← s.drawRow? x y row.toNat
    let (s, below) ← s.drawSprite? x (y + 1) rest
    return (s, here || below)

/-! ### The whole picture -/

/-- Asks for the whole picture to be painted again. -/
def invalidate (s : Screen) : Screen := { s with pending := allPending s.pixels }

/-- All pixels off. -/
def cleared (s : Screen) : Screen := blank s.width s.height

/-- The number of a pixel's colour. -/
def colour (on : Bool) : Int := if on then 1 else 0

/-- The pending changes by place. -/
def changes (s : Screen) : Paint :=
  s.pending.toList.map fun (index, on) =>
    (⟨Int.fmod index s.width, Int.fdiv index s.width⟩, colour on)

/-- Takes the pending changes out. -/
def handOver (s : Screen) : Screen × Paint := ({ s with pending := ∅ }, s.changes)

end Screen

end ChipEight
