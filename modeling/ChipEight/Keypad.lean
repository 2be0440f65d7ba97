/-
The sixteen keys.

Keys go down and up at any time, but a program sees them only through a snapshot,
taken at the *latch*, so that every instruction of a frame reads the same keys.  A
key that went down and up again between two latches is in the next snapshot all the
same: `tapped` remembers it until then.
-/

namespace ChipEight

/-- One of the sixteen keys. -/
abbrev Key := Fin 16

/-- The key of a number.  Only its low four bits count. -/
def Key.ofInt (n : Int) : Key := ⟨(n % 16).toNat, by omega⟩

/-- The keys as they are, and as they were at the last latch. -/
structure Keypad where
  /-- The keys that are down. -/
  held : Vector Bool 16
  /-- The keys that went down since the last latch. -/
  tapped : Vector Bool 16
  /-- The snapshot that programs read. -/
  latched : Vector Bool 16
  deriving DecidableEq, Repr

namespace Keypad

/-- No key is down and none was. -/
def released : Keypad :=
  ⟨Vector.replicate 16 false, Vector.replicate 16 false, Vector.replicate 16 false⟩

instance : Inhabited Keypad := ⟨released⟩

/-- A key goes down or up. -/
def setKey (k : Keypad) (key : Int) (down : Bool) : Keypad :=
  { k with
    held := k.held.set (Key.ofInt key) down
    tapped := if down then k.tapped.set (Key.ofInt key) true else k.tapped }

/-- Takes a new snapshot. -/
def latch (k : Keypad) : Keypad :=
  { k with
    tapped := Vector.replicate 16 false
    latched := Vector.zipWith (· || ·) k.held k.tapped }

/-- Whether the snapshot shows a key as down. -/
def isPressed (k : Keypad) (key : Int) : Bool := k.latched.get (Key.ofInt key)

/-- The lowest key the snapshot shows as down. -/
def activeKey? (k : Keypad) : Option Key :=
  (List.finRange 16).find? fun key => k.latched.get key

end Keypad

end ChipEight
