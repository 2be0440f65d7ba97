/-
The state of the processor.

There are sixteen registers of eight bits, and beside them an index register, a program
counter, two timers and a stack of return addresses.  These others are integers and
not words: an instruction that computes an address neither wraps nor cuts it, and an
address that went outside is found out where it is used.
-/
import ChipEight.Dump
import ChipEight.Instruction

namespace ChipEight

/-- Whether the processor executes instructions or waits for a key. -/
inductive Mode where
  | running
  /-- The number of the next key goes to a register. -/
  | awaitingKey (x : Register)
  deriving DecidableEq, Repr

/-- The state of the processor. -/
structure Cpu where
  v : Vector UInt8 16
  index : Int
  pc : Int
  /-- The delay timer. -/
  delay : Int
  /-- The sound timer. -/
  sound : Int
  /-- The return addresses, that of the innermost call first. -/
  stack : List Int
  /-- The operand executed last. -/
  operand : Int
  mode : Mode
  deriving DecidableEq, Repr

namespace Cpu

/-- Where programs begin. -/
def programStart : Int := 0x200

/-- How many calls may be open unless a machine is told otherwise. -/
def standardStackDepth : Int := 16

/-- The bytes of one instruction. -/
def instructionSize : Int := 2

/-- The state a program starts in. -/
def initial : Cpu :=
  { v := Vector.replicate 16 0
    index := 0
    pc := programStart
    delay := 0
    sound := 0
    stack := []
    operand := 0
    mode := .running }

instance : Inhabited Cpu := ⟨initial⟩

def running (c : Cpu) : Bool := c.mode = .running

/-- The contents of a register. -/
def reg (c : Cpu) (x : Register) : UInt8 := c.v.get x

def setReg (c : Cpu) (x : Register) (value : UInt8) : Cpu := { c with v := c.v.set x value }

/-- Moves the program counter over one instruction. -/
def advance (c : Cpu) : Cpu := { c with pc := c.pc + instructionSize }

/-- One step of a timer: down by one, unless it stands at zero. -/
def countDown (timer : Int) : Int := if timer = 0 then 0 else timer - 1

/-- Both timers count down. -/
def decrementTimers (c : Cpu) : Cpu :=
  { c with delay := countDown c.delay, sound := countDown c.sound }

/-- Ends a wait for a key.  Of the number the low eight bits go to the register that was
waiting; a processor that does not wait is left alone. -/
def resolveKey (c : Cpu) (key : Int) : Cpu :=
  match c.mode with
  | .running => c
  | .awaitingKey x => { c.setReg x (UInt8.ofInt key) with mode := .running }

/-- What the dump shows. -/
def dump (c : Cpu) : Dump :=
  { pc := c.pc
    operand := c.operand
    v := c.v.map fun value => value.toNat
    index := c.index
    delay := c.delay
    sound := c.sound
    stack := c.stack.reverse }

end Cpu

end ChipEight
