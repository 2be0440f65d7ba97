/-
The machine: a processor and all it is wired to.

Besides memory, picture and keys these are a speaker, if there is one, a source of
random bytes, and the log of what the devices of the host were asked for.
-/
import ChipEight.Cpu
import ChipEight.Font
import ChipEight.Keypad
import ChipEight.Screen
import ChipEight.Speaker

namespace ChipEight

/-- An unending row of random numbers, and how many of them were drawn. -/
structure RandomSource where
  byte : Nat → Int
  drawn : Nat

namespace RandomSource

/-- The number to be drawn next. -/
def next (r : RandomSource) : Int := r.byte r.drawn

def advance (r : RandomSource) : RandomSource := { r with drawn := r.drawn + 1 }

/-- Draws from a list over and over, and zeros if it is empty. -/
def cycle (numbers : List Int) : RandomSource :=
  let numbers := numbers.toArray
  ⟨fun i => numbers.getD (i % numbers.size) 0, 0⟩

/-- Bytes that a seed decides. -/
def ofSeed (seed : UInt64) : RandomSource :=
  ⟨fun i => (mixHash seed (hash i)).toNat % 256, 0⟩

end RandomSource

/-- A processor and all it is wired to. -/
structure Machine where
  cpu : Cpu
  memory : Memory
  screen : Screen
  keypad : Keypad
  speaker : Option Speaker
  /-- How many calls may be open at once. -/
  stackDepth : Int
  random : RandomSource
  /-- What the devices of the host were asked for, oldest first. -/
  log : Array DeviceCall

namespace Machine

/-- A machine as it is switched on, with the standard picture. -/
def poweredOn (memory : Memory) (stackDepth : Int) (speaker : Option Speaker)
    (random : RandomSource) : Machine :=
  { cpu := .initial
    memory := memory
    screen := .standard
    keypad := .released
    speaker := speaker
    stackDepth := stackDepth
    random := random
    log := #[] }

/-- Notes calls to the devices. -/
def request (m : Machine) (calls : List DeviceCall) : Machine :=
  { m with log := m.log.appendList calls }

/-- Hands over the calls noted so far. -/
def takeLog (m : Machine) : Machine × Array DeviceCall := ({ m with log := #[] }, m.log)

/-- Changes the processor and nothing else. -/
def onCpu (m : Machine) (change : Cpu → Cpu) : Machine := { m with cpu := change m.cpu }

/-- Has the speaker do something. -/
def onSpeaker (m : Machine) (action : Speaker → Speaker × List DeviceCall) : Machine :=
  match m.speaker with
  | none => m
  | some speaker =>
    let (speaker, calls) := action speaker
    { m with speaker := some speaker }.request calls

/-- The keys are latched. -/
def latch (m : Machine) : Machine := { m with keypad := m.keypad.latch }

def decrementTimers (m : Machine) : Machine := m.onCpu Cpu.decrementTimers

def resolveKey (m : Machine) (key : Int) : Machine := m.onCpu (·.resolveKey key)

end Machine

end ChipEight
