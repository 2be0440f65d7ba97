/-
The register dump: the state of the processor as text.

It is written where a program halts, for whoever has to see why, and has one line for each
field that stands alone.  Every number is hexadecimal and filled with blanks to the width
it usually has; numbers of any size and sign can be shown, and a number that needs more
room takes it.
-/
import ChipEight.Text.Hexadecimal

namespace ChipEight

open Text

/-- What a register dump shows. -/
structure Dump where
  pc : Int
  operand : Int
  v : Vector Int 16
  index : Int
  /-- The delay timer. -/
  delay : Int
  /-- The sound timer. -/
  sound : Int
  /-- The return addresses, that of the outermost call first. -/
  stack : List Int
  deriving DecidableEq, Repr

namespace Dump

/-- The line of the register with a number. -/
def registerLine (x : Fin 16) (value : Int) : List Char :=
  'V' :: Hex.digits x ++ ": ".toList ++ Hex.blankPadded 2 value ++ ['\n']

/-- The lines of all registers. -/
def registerLines (v : Vector Int 16) : List Char :=
  (List.finRange 16).flatMap fun x => registerLine x (v.get x)

/-- The addresses of the stack with blanks between them. -/
def stackChars (stack : List Int) : List Char :=
  [' '].intercalate (stack.map (Hex.blankPadded 4))

/-- The dump, with no line end behind it. -/
def chars (d : Dump) : List Char :=
  "PC: ".toList ++ Hex.blankPadded 4 d.pc ++ "  OP: ".toList ++ Hex.blankPadded 4 d.operand ++
    ['\n'] ++ registerLines d.v ++
  "I: ".toList ++ Hex.blankPadded 4 d.index ++ ['\n'] ++
  "DT: ".toList ++ Hex.blankPadded 2 d.delay ++ "  ST: ".toList ++ Hex.blankPadded 2 d.sound ++
    ['\n'] ++ "STACK: ".toList ++ stackChars d.stack

def text (d : Dump) : String := String.ofList d.chars

end Dump

end ChipEight
