/-
The console: a machine with a display and an operator.

A console is *inactive* until a program is loaded, and inactive again once a fault has
halted it; the fault stays to be looked at.  Time passes in frames.  A frame runs a
fixed number of instructions, latching the keys after each of them, or, while the
processor waits for a key, looks for one; then the picture is shown and the timers
count down.  A frame that ends in a fault shows what was drawn so far and counts
nothing.

Resetting brings back the machine as it was switched on, but for the speaker's
settings, the numbers drawn so far and what the display remembers.
-/
import ChipEight.Display
import ChipEight.Machine.Execute
import ChipEight.Shelf

namespace ChipEight

/-- Why a console cannot be switched on. -/
inductive ConsoleError where
  /-- No memory has this size. -/
  | memorySize (size : Int)
  /-- There is no length of a frame for this rate. -/
  | frameRate (error : ArithmeticError)
  /-- The memory is too small for the sprites of the digits. -/
  | sprites (fault : Fault)
  deriving DecidableEq, Repr

/-- Why a program was not loaded. -/
inductive LoadError where
  /-- The name can be that of no file. -/
  | impossibleName
  | unreadable (name : String) (error : ReadError)
  /-- The console could not be reset before. -/
  | notReset (fault : Fault)
  | tooLarge (length : Nat) (fault : Fault)
  deriving DecidableEq, Repr

/-- The words a failure to load is reported in. -/
def LoadError.message : LoadError → String
  | impossibleName => "embedded null byte"
  | unreadable name error => "Cannot read ROM " ++ name ++ ": " ++ error.message name
  | notReset fault => fault.message
  | tooLarge length fault =>
    s!"ROM of {length} bytes does not fit in memory: " ++ fault.message

/-- A machine with a display and an operator. -/
structure Console where
  machine : Machine
  display : Display
  /-- Instructions to a frame. -/
  stepsPerFrame : Int
  /-- The length of a frame in seconds. -/
  interval : Binary64
  /-- Whether frames execute anything. -/
  active : Bool
  /-- The fault that halted the program. -/
  fault : Option Fault
  /-- The frames completed. -/
  frames : Nat
  /-- Whether frames are to follow one another. -/
  looping : Bool

namespace Console

/-- Frames to a second, unless a console is told otherwise. -/
def standardFrameRate : Int := 60

/-- Instructions to a frame, unless a console is told otherwise. -/
def standardStepsPerFrame : Int := 12

/-- What a console is told when it is switched on. -/
structure Settings where
  memorySize : Int := Memory.defaultSize
  /-- The most bytes that the host has to give. -/
  hostCapacity : Int := Memory.largestSize
  /-- How many calls may be open at once. -/
  stackDepth : Int := Cpu.standardStackDepth
  /-- Frames to a second. -/
  frameRate : Amount := .whole standardFrameRate
  /-- Instructions to a frame. -/
  stepsPerFrame : Int := standardStepsPerFrame
  deriving DecidableEq, Repr

/-! ### Resetting and loading -/

/-- The machine with everything but its memory as it was switched on. -/
def resetMachine (m : Machine) : Machine :=
  { m with screen := m.screen.cleared, keypad := .released, cpu := .initial }.onSpeaker Speaker.stop

/-- Forgets the program, and whatever fault it ended in.  Where the sprites do not fit into
memory, this goes no further than that. -/
def reset (c : Console) : Console × Option Fault :=
  let (memory, fault) := Font.install c.machine.memory.cleared
  let machine := { c.machine with memory := memory }
  match fault with
  | some fault => ({ c with machine := machine }, some fault)
  | none => ({ c with machine := resetMachine machine, active := false, fault := none }, none)

/-- Resets, and then starts a program.  One that does not fit leaves the console reset. -/
def load (c : Console) (program : List UInt8) : Console × Option LoadError :=
  match c.reset with
  | (c, some fault) => (c, some (.notReset fault))
  | (c, none) =>
    match c.machine.memory.store Cpu.programStart program with
    | .error fault => (c, some (.tooLarge program.length fault))
    | .ok memory =>
      ({ c with machine := { c.machine with memory := memory }, active := true }, none)

/-- Starts a program from a file.  A file that cannot be read leaves the console alone. -/
def loadFile (c : Console) (read : Reader) (name : String) : Console × Option LoadError :=
  if name.contains (Char.ofNat 0) then (c, some .impossibleName)
  else
    match read name with
    | .error error => (c, some (.unreadable name error))
    | .ok program => c.load program

/-- A console with all its parts, before its first reset. -/
def unreset (settings : Settings) (memory : Memory) (interval : Binary64) (speaker : Speaker)
    (display : Display) (random : RandomSource) (log : List DeviceCall) : Console :=
  { machine :=
      (Machine.poweredOn memory settings.stackDepth (some speaker) random).request log
    display := display
    stepsPerFrame := settings.stepsPerFrame
    interval := interval
    active := false
    fault := none
    frames := 0
    looping := false }

/-- A console as it is switched on, or why it cannot be.  `log` holds the calls that made its
speaker and its display. -/
def poweredOn? (settings : Settings) (speaker : Speaker) (display : Display)
    (random : RandomSource) (log : List DeviceCall) : Except ConsoleError Console :=
  match Memory.blank? settings.memorySize settings.hostCapacity with
  | none => .error (.memorySize settings.memorySize)
  | some memory =>
    match settings.frameRate.toBinary64 >>= Binary64.one.divide with
    | .error error => .error (.frameRate error)
    | .ok interval =>
      match (unreset settings memory interval speaker display random log).reset with
      | (_, some fault) => .error (.sprites fault)
      | (console, none) => .ok console

/-! ### Frames -/

/-- Shows the pending changes. -/
def render (c : Console) : Console :=
  let (screen, paint) := c.machine.screen.handOver
  let (display, calls) := c.display.draw paint
  { c with machine := { c.machine with screen := screen }.request calls, display := display }

/-- Executes instructions, latching the keys after each, until there were enough of them,
until one waits for a key, or until a fault. -/
def runSteps : Nat → Machine.Action Unit
  | 0 => return
  | n + 1 => do
    let _ ← Machine.step
    modify Machine.latch
    if (← get).cpu.running then runSteps n

/-- Latches the keys and gives the lowest pressed one to the processor that waits. -/
def pollKeys (m : Machine) : Machine :=
  let m := m.latch
  match m.keypad.activeKey? with
  | none => m
  | some key => m.resolveKey key

/-- Stops executing because of a fault. -/
def halt (c : Console) (fault : Fault) : Console :=
  { c with fault := some fault, active := false }

/-- The end of a frame without a fault. -/
def finishFrame (c : Console) : Console :=
  { c with machine := c.machine.decrementTimers, frames := c.frames + 1 }

/-- Whether the next frame is to execute instructions. -/
def executing (c : Console) : Bool := c.active && c.machine.cpu.running

/-- One frame.  The answer is false if a fault ended it.  Nobody handles a crash, but what was
drawn before it is shown all the same. -/
def tick (c : Console) : Console × Except Crash Bool :=
  if !c.active then (c, .ok true)
  else
    match c.machine.cpu.mode with
    | .awaitingKey _ => ({ c with machine := pollKeys c.machine }.finishFrame, .ok true)
    | .running =>
      match (runSteps c.stepsPerFrame.toNat).run c.machine with
      | .ok _ machine => ({ c with machine := machine }.render.finishFrame, .ok true)
      | .error (.fault fault) machine =>
        (({ c with machine := machine }.halt fault).render, .ok false)
      | .error (.crash crash) machine => ({ c with machine := machine }.render, .error crash)

/-! ### The operator -/

def setKey (c : Console) (key : Int) (down : Bool) : Console :=
  { c with machine := { c.machine with keypad := c.machine.keypad.setKey key down } }

def onSpeaker (c : Console) (action : Speaker → Speaker × List DeviceCall) : Console :=
  { c with machine := c.machine.onSpeaker action }

def mute (c : Console) : Console := c.onSpeaker Speaker.mute

def unmute (c : Console) : Console := c.onSpeaker Speaker.unmute

def setVolume (c : Console) (volume : Amount) : Console := c.onSpeaker (·.setVolume volume)

/-- Wants frames to follow one another.  They cannot if a frame takes no time, since then
there is no rate of frames. -/
def start (c : Console) : Console × Option ArithmeticError :=
  ({ c with looping := true }, if c.interval.isZero then some .divisionByZero else none)

/-- Wants no more frames. -/
def stop (c : Console) : Console := { c with looping := false }

end Console

end ChipEight
