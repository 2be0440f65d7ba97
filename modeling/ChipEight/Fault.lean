/-
The faults of the machine.

A fault is a program's error, not the host's: the instruction that raises one
changes nothing, and the console that runs the machine halts and shows it.  Each
constructor is a cause, and `message` is the one place where causes become words.
-/
import ChipEight.Text.Hexadecimal

namespace ChipEight

open Text

/-- Why an instruction, or an access to memory, could not be carried out. -/
inductive Fault where
  /-- No instruction has this operand.  The address is known when it was fetched. -/
  | unknownOpcode (operand : Int) (address : Option Int)
  /-- A return with no call to return from. -/
  | stackUnderflow
  /-- A call nested deeper than the stack allows. -/
  | stackOverflow (depth : Int)
  /-- An address that no byte of a memory of this size stands at. -/
  | outOfBounds (address size : Int)
  deriving DecidableEq, Repr

namespace Fault

/-- The fault of an instruction that was fetched from an address. -/
def locatedAt (address : Int) : Fault → Fault
  | unknownOpcode operand _ => unknownOpcode operand (some address)
  | fault => fault

/-- The words a fault is reported in. -/
def message : Fault → String
  | unknownOpcode operand none =>
    "Unknown op-code: " ++ String.ofList (Hex.zeroPadded 4 operand)
  | unknownOpcode operand (some address) =>
    "Unknown op-code: " ++ String.ofList (Hex.zeroPadded 4 operand) ++ " at " ++
      String.ofList (Hex.zeroPadded 4 address)
  | stackUnderflow => "Return with an empty call stack"
  | stackOverflow depth => s!"Call stack overflow (depth {depth})"
  | outOfBounds address size =>
    "Address " ++ String.ofList (Hex.zeroPadded 4 address) ++ s!" outside memory of {size} bytes"

end Fault

end ChipEight
