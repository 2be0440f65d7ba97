/-
The built-in sprites of the sixteen hexadecimal digits.

Each digit is five bytes, a byte being one row of eight pixels with the leftmost
pixel in the most significant bit.  The sprites stand one after the other from
`address` on, digit zero first, so that the address of a digit is a product.
-/
import ChipEight.Memory

namespace ChipEight.Font

/-- Where the sprite of digit zero begins. -/
def address : Nat := 0x050

/-- The rows, and so the bytes, of one sprite. -/
def rows : Nat := 5

/-- The sixteen sprites, digit zero first. -/
def sprites : List (List UInt8) :=
  [[0xF0, 0x90, 0x90, 0x90, 0xF0],
   [0x20, 0x60, 0x20, 0x20, 0x70],
   [0xF0, 0x10, 0xF0, 0x80, 0xF0],
   [0xF0, 0x10, 0xF0, 0x10, 0xF0],
   [0x90, 0x90, 0xF0, 0x10, 0x10],
   [0xF0, 0x80, 0xF0, 0x10, 0xF0],
   [0xF0, 0x80, 0xF0, 0x90, 0xF0],
   [0xF0, 0x10, 0x20, 0x40, 0x40],
   [0xF0, 0x90, 0xF0, 0x90, 0xF0],
   [0xF0, 0x90, 0xF0, 0x10, 0xF0],
   [0xF0, 0x90, 0xF0, 0x90, 0x90],
   [0xE0, 0x90, 0xE0, 0x90, 0xE0],
   [0xF0, 0x80, 0x80, 0x80, 0xF0],
   [0xE0, 0x90, 0x90, 0x90, 0xE0],
   [0xF0, 0x80, 0xF0, 0x80, 0xF0],
   [0xF0, 0x80, 0xF0, 0x80, 0x80]]

/-- Where the sprite of a digit begins.  Of the number only the low four bits count. -/
def addressOf (digit : Int) : Int := address + digit % 16 * rows

/-- Writes sprites from digit `first` on, up to the first that does not fit.  What was
written before a failure stays. -/
def writeFrom (first : Nat) (m : Memory) : List (List UInt8) → Memory × Option Fault
  | [] => (m, none)
  | sprite :: rest =>
    match m.store (addressOf first) sprite with
    | .error fault => (m, some fault)
    | .ok m => writeFrom (first + 1) m rest

/-- Writes all sixteen sprites. -/
def install (m : Memory) : Memory × Option Fault := writeFrom 0 m sprites

end ChipEight.Font
