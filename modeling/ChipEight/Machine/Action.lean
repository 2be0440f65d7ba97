/-
What the machine does, and how it stops short.

An action changes the machine step by step, and it may stop before its end.  What was
changed until then stays changed: stopping takes nothing back.  An action that is to
change either all or nothing has to check before it changes, or to put back what it
changed.

There are two ways to stop.  A fault is an error of the program, and the console knows
what to do about one.  A crash is an error of the host, which nobody handles: it would
end the host's program together with the machine.
-/
import ChipEight.Machine

namespace ChipEight

/-- An error of the host in the middle of an action. -/
inductive Crash where
  /-- A place that was to be drawn on has no pixel. -/
  | noPixel
  /-- The length of a tone cannot be told to the mixer. -/
  | tone (error : ArithmeticError)
  deriving DecidableEq, Repr

/-- Why an action stopped short. -/
inductive Stop where
  | fault (fault : Fault)
  | crash (crash : Crash)
  deriving DecidableEq, Repr

namespace Machine

/-- Something the machine does, and the answer if it does not stop before its end. -/
abbrev Action := EStateM Stop Machine

namespace Action

/-- Stops with a fault. -/
def raise {α : Type} (fault : Fault) : Action α := throw (.fault fault)

def getCpu : Action Cpu := return (← get).cpu

def modifyCpu (change : Cpu → Cpu) : Action Unit := modify (·.onCpu change)

/-- Asks the memory for something.  Its faults are those of the action. -/
def askMemory {α : Type} (question : Memory → Except Fault α) : Action α := do
  match question (← get).memory with
  | .error fault => raise fault
  | .ok answer => return answer

/-- Writes bytes to memory. -/
def store (address : Int) (values : List UInt8) : Action Unit := do
  let memory ← askMemory (·.store address values)
  modify fun m => { m with memory := memory }

/-- Draws a random number. -/
def drawRandom : Action Int :=
  modifyGet fun m => (m.random.next, { m with random := m.random.advance })

/-- Draws the rows of a sprite downward from a place, and tells whether any of them turned a
pixel off. -/
def drawSprite (x y : Int) (rows : List UInt8) : Action Bool := do
  match (← get).screen.drawSprite? x y rows with
  | none => throw (.crash .noPixel)
  | some (screen, collision) =>
    modify fun m => { m with screen := screen }
    return collision

/-- Sounds the tone for a number of ticks, if there is a speaker. -/
def playTone (ticks : UInt8) : Action Unit := do
  match (← get).speaker with
  | none => return
  | some speaker =>
    let (speaker, calls, error) := speaker.play ticks.toNat
    modify fun m => { m with speaker := some speaker }.request calls
    match error with
    | none => return
    | some error => throw (.crash (.tone error))

end Action

end Machine

end ChipEight
