/-
The memory: a row of bytes of fixed size.

Addresses are integers, because a program can compute one that lies outside.  An
access names its first address and how many bytes it wants, and the whole range is
checked before a single byte is touched: `checkRange` is the only judge, and what
fails there leaves the memory as it was.  The fault names the first address when
that one is outside, and otherwise the last address of the range.

Reading or writing nothing at all succeeds at any address.
-/
import ChipEight.Fault

namespace ChipEight

/-- The bytes, from address zero upward. -/
structure Memory where
  bytes : Array UInt8
  deriving DecidableEq, Repr, Inhabited

namespace Memory

/-- The bytes a console has unless it is told otherwise: more than the classic four
kilobytes, so that the index register can point past `0xFFF`. -/
def defaultSize : Int := 7096

/-- The most bytes a host gives unless it is said otherwise, as many as a word of 32 bits with a
sign can count. -/
def largestSize : Int := 0x7FFFFFFF

def size (m : Memory) : Nat := m.bytes.size

/-- A memory of zeros. -/
def blank (size : Nat) : Memory := ⟨Array.replicate size 0⟩

/-- A memory of zeros, if there can be one of that size on a host with so many bytes to give. -/
def blank? (size : Int) (capacity : Int := largestSize) : Option Memory :=
  if size < 0 ∨ capacity < size then none else some (blank size.toNat)

/-- All bytes back to zero. -/
def cleared (m : Memory) : Memory := blank m.size

/-- Whether a range lies inside.  The first address is checked even for an empty range. -/
def checkRange (m : Memory) (address length : Int) : Except Fault Unit :=
  if address < 0 ∨ (m.size : Int) ≤ address then
    .error (.outOfBounds address m.size)
  else if 0 < length ∧ (m.size : Int) < address + length then
    .error (.outOfBounds (address + length - 1) m.size)
  else
    .ok ()

/-! ### Reading -/

/-- The byte at an address inside; zero elsewhere, where no caller looks. -/
def byteAt (m : Memory) (address : Nat) : UInt8 := m.bytes.getD address 0

def readByte (m : Memory) (address : Int) : Except Fault UInt8 := do
  m.checkRange address 1
  return m.byteAt address.toNat

/-- The bytes of a range, in order. -/
def readBytes (m : Memory) (address length : Int) : Except Fault (List UInt8) := do
  if length ≤ 0 then
    return []
  m.checkRange address length
  return (List.range length.toNat).map fun i => m.byteAt (address.toNat + i)

/-- The number two neighbouring bytes make, the first being the more significant. -/
def readWord (m : Memory) (address : Int) : Except Fault Nat := do
  m.checkRange address 2
  return (m.byteAt address.toNat).toNat * 256 + (m.byteAt (address.toNat + 1)).toNat

/-! ### Writing -/

/-- `bytes` with `values` over what stood from `start` on. -/
def overwrite (bytes : Array UInt8) (start : Nat) : List UInt8 → Array UInt8
  | [] => bytes
  | value :: rest => overwrite (bytes.setIfInBounds start value) (start + 1) rest

/-- The memory with `values` from `address` on. -/
def store (m : Memory) (address : Int) (values : List UInt8) : Except Fault Memory := do
  if values.isEmpty then
    return m
  m.checkRange address values.length
  return ⟨overwrite m.bytes address.toNat values⟩

/-- The memory with numbers written from `address` on, each cut to its low eight bits. -/
def writeBytes (m : Memory) (address : Int) (values : List Int) : Except Fault Memory :=
  m.store address (values.map UInt8.ofInt)

def writeByte (m : Memory) (address value : Int) : Except Fault Memory :=
  m.writeBytes address [value]

end Memory

end ChipEight
