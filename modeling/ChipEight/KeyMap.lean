/-
Which key of the host stands for which key of the keypad.

A layout gives every key of the keypad a key of the host; the map is the layout read
backward.  Where two keys share one host key, the later of them has it.
-/
import ChipEight.Assoc
import ChipEight.Keypad

namespace ChipEight

/-- A layout and its inverse.  Host keys are whatever the host calls its keys by. -/
structure KeyMap (Host : Type) where
  layout : List (Int × Host)
  lookup : List (Host × Int)

namespace KeyMap

variable {Host : Type} [DecidableEq Host]

/-- The map of a layout.  A key given twice keeps its place and takes the later host key. -/
def ofLayout (pairs : List (Int × Host)) : KeyMap Host :=
  let layout := Assoc.ofPairs pairs
  ⟨layout, Assoc.ofPairs (layout.map Prod.swap)⟩

/-- The key a host key stands for. -/
def get? (map : KeyMap Host) (host : Host) : Option Int := Assoc.find? host map.lookup

def contains (map : KeyMap Host) (host : Host) : Bool := (map.get? host).isSome

/-- The number of host keys that stand for something. -/
def size (map : KeyMap Host) : Nat := map.lookup.length

end KeyMap

/-- The usual layout, the four by four keypad on the left of the keyboard:

    1 2 3 C        1 2 3 4
    4 5 6 D   on   q w e r
    7 8 9 E        a s d f
    A 0 B F        z x c v
-/
def standardLayout : List (Int × Char) :=
  [(0x1, '1'), (0x2, '2'), (0x3, '3'), (0xC, '4'),
   (0x4, 'q'), (0x5, 'w'), (0x6, 'e'), (0xD, 'r'),
   (0x7, 'a'), (0x8, 's'), (0x9, 'd'), (0xE, 'f'),
   (0xA, 'z'), (0x0, 'x'), (0xB, 'c'), (0xF, 'v')]

/-- The usual layout for hosts that know keys by name. -/
def KeyMap.byName : KeyMap String :=
  .ofLayout (standardLayout.map fun (key, host) => (key, String.singleton host))

/-- The usual layout for hosts that know keys by code, the code of a letter or digit being
that of its character. -/
def KeyMap.byCode : KeyMap Int :=
  .ofLayout (standardLayout.map fun (key, host) => (key, (host.toNat : Int)))

end ChipEight
