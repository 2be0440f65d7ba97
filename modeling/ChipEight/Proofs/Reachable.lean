/-
What holds of a console whatever happens to it.

A console is switched on and then used: programs are loaded, keys go down and up, the
speaker is turned up and down, frames pass.  `Operation` lists what can happen, and
`Reachable` is what comes of it, in any order and any number.

`Console.WellFormed` holds of everything that is reachable.  Besides what holds of the
machine it says that the sprites of the digits fit into memory, which was found out when
the console was switched on and is why no later reset can fail, and that an active console
has no fault to show.  `InBounds` is what a reader wants to know of it: the bounds of
everything that can be looked at.
-/
import ChipEight.Proofs.Frame

namespace ChipEight.Console

open Machine

/-! ### Using a console -/

/-- What can happen to a console. -/
inductive Operation where
  | load (program : List UInt8)
  | reset
  | press (key : Int)
  | release (key : Int)
  | mute
  | unmute
  | setVolume (volume : Amount)
  | tick
  deriving DecidableEq, Repr

/-- The console after an operation, whatever the operation answered. -/
def apply (c : Console) : Operation → Console
  | .load program => (c.load program).1
  | .reset => c.reset.1
  | .press key => c.setKey key true
  | .release key => c.setKey key false
  | .mute => c.mute
  | .unmute => c.unmute
  | .setVolume volume => c.setVolume volume
  | .tick => c.tick.1

theorem apply_tick (c : Console) : c.apply .tick = c.tick.1 := rfl

/-- What comes of a console that is switched on with some settings. -/
inductive Reachable (settings : Settings) : Console → Prop where
  | poweredOn {speaker : Speaker} {display : Display} {random : RandomSource}
      {log : List DeviceCall} {c : Console}
      (on : poweredOn? settings speaker display random log = .ok c) : Reachable settings c
  | apply {c : Console} (before : Reachable settings c) (operation : Operation) :
      Reachable settings (c.apply operation)

/-- What holds of a console that was switched on with some settings. -/
structure WellFormed (settings : Settings) (c : Console) : Prop where
  machine : c.machine.WellFormed settings.memorySize settings.stackDepth
  /-- The sprites fit into memory. -/
  sprites : (Font.install (Memory.blank settings.memorySize.toNat)).2 = none
  steps : c.stepsPerFrame = settings.stepsPerFrame
  /-- A console that shows a fault is halted. -/
  healthy : c.active = true → c.fault = none

variable {settings : Settings} {c : Console}

/-! ### Resetting and loading -/

theorem resetMachine_wellFormed {m : Machine} {size depth : Int} (h : m.WellFormed size depth) :
    (resetMachine m).WellFormed size depth := by
  have hquiet :
      ({ m with screen := m.screen.cleared, keypad := .released, cpu := .initial } :
        Machine).WellFormed size depth :=
    ⟨h.memory, h.calls, Cpu.inRange_initial, h.screen.cleared⟩
  exact hquiet.onSpeaker Speaker.stop

/-- The memory of a console after a reset. -/
def Settings.freshMemory (settings : Settings) : Memory :=
  (Font.install (Memory.blank settings.memorySize.toNat)).1

theorem size_freshMemory (h : c.WellFormed settings) :
    (settings.freshMemory.size : Int) = settings.memorySize := by
  rw [Settings.freshMemory, Font.size_install, Memory.size_blank, ← h.machine.memory,
    Int.toNat_natCast]

/-- A reset never fails. -/
theorem WellFormed.reset_eq (h : c.WellFormed settings) :
    c.reset =
      ({ c with
          machine := resetMachine { c.machine with memory := settings.freshMemory }
          active := false
          fault := none }, none) := by
  have hcleared : c.machine.memory.cleared = Memory.blank settings.memorySize.toNat := by
    rw [Memory.cleared, ← h.machine.memory, Int.toNat_natCast]
  have hinstall : Font.install c.machine.memory.cleared = (settings.freshMemory, none) := by
    rw [hcleared, Settings.freshMemory, ← h.sprites]
  simp only [reset, hinstall]

theorem WellFormed.reset (h : c.WellFormed settings) : c.reset.1.WellFormed settings := by
  rw [h.reset_eq]
  have hmachine : ({ c.machine with memory := settings.freshMemory } : Machine).WellFormed
      settings.memorySize settings.stackDepth :=
    ⟨size_freshMemory h, h.machine.calls, h.machine.cpu, h.machine.screen⟩
  refine ⟨resetMachine_wellFormed hmachine, h.sprites, h.steps, ?_⟩
  intro hactive
  cases hactive

theorem WellFormed.reset_memory (h : c.WellFormed settings) :
    c.reset.1.machine.memory = settings.freshMemory := by
  rw [h.reset_eq]
  exact onSpeaker_memory _ _

theorem WellFormed.reset_cpu (h : c.WellFormed settings) : c.reset.1.machine.cpu = .initial := by
  rw [h.reset_eq]
  exact onSpeaker_cpu _ _

/-- Loading resets first, and then finds room for the program or does not. -/
theorem WellFormed.load_eq (h : c.WellFormed settings) (program : List UInt8) :
    c.load program =
      match settings.freshMemory.store Cpu.programStart program with
      | .error fault => (c.reset.1, some (.tooLarge program.length fault))
      | .ok memory =>
        ({ c.reset.1 with machine := { c.reset.1.machine with memory := memory }, active := true },
          none) := by
  obtain ⟨after, hreset⟩ : ∃ after, c.reset = (after, none) := ⟨_, h.reset_eq⟩
  have hmemory : after.machine.memory = settings.freshMemory := by
    rw [← h.reset_memory, hreset]
  cases hstore : settings.freshMemory.store Cpu.programStart program with
  | error fault => simp only [Console.load, hreset, hmemory, hstore]
  | ok memory => simp only [Console.load, hreset, hmemory, hstore]

theorem WellFormed.load (h : c.WellFormed settings) (program : List UInt8) :
    (c.load program).1.WellFormed settings := by
  have hreset := h.reset
  rw [h.load_eq]
  split
  · exact hreset
  · rename_i memory hstore
    refine ⟨⟨?_, hreset.machine.calls, hreset.machine.cpu, hreset.machine.screen⟩, h.sprites,
      hreset.steps, ?_⟩
    · rw [Memory.size_store hstore]
      exact size_freshMemory h
    · intro _
      rw [h.reset_eq]

theorem WellFormed.load_cpu (h : c.WellFormed settings) (program : List UInt8) :
    (c.load program).1.machine.cpu = .initial := by
  rw [h.load_eq]
  split
  · exact h.reset_cpu
  · exact h.reset_cpu

/-! ### Everything else -/

theorem WellFormed.setKey (h : c.WellFormed settings) (key : Int) (down : Bool) :
    (c.setKey key down).WellFormed settings :=
  ⟨⟨h.machine.memory, h.machine.calls, h.machine.cpu, h.machine.screen⟩, h.sprites, h.steps,
    h.healthy⟩

theorem WellFormed.onSpeaker (h : c.WellFormed settings)
    (action : Speaker → Speaker × List DeviceCall) : (c.onSpeaker action).WellFormed settings :=
  ⟨h.machine.onSpeaker action, h.sprites, h.steps, h.healthy⟩

theorem WellFormed.frame (h : c.WellFormed settings) {next : Console} {answer : Bool}
    (hframe : Frame c next answer) : next.WellFormed settings := by
  have hmachine := hframe.wellFormed h.machine
  cases hframe with
  | idle => exact h
  | waiting => exact ⟨hmachine, h.sprites, h.steps, h.healthy⟩
  | completed => exact ⟨hmachine, h.sprites, h.steps, h.healthy⟩
  | faulted =>
      refine ⟨hmachine, h.sprites, h.steps, ?_⟩
      intro hactive
      cases hactive

theorem WellFormed.tick (h : c.WellFormed settings) : c.tick.1.WellFormed settings := by
  obtain ⟨answer, -, hframe⟩ := tick_frame h.machine
  exact h.frame hframe

/-- No operation breaks a console. -/
theorem WellFormed.apply (h : c.WellFormed settings) (operation : Operation) :
    (c.apply operation).WellFormed settings := by
  cases operation with
  | load program => exact h.load program
  | reset => exact h.reset
  | press key => exact h.setKey key true
  | release key => exact h.setKey key false
  | mute => exact h.onSpeaker _
  | unmute => exact h.onSpeaker _
  | setVolume volume => exact h.onSpeaker _
  | tick => exact h.tick

/-! ### Switching on -/

theorem blank?_eq_some {size capacity : Int} {memory : Memory}
    (h : Memory.blank? size capacity = some memory) :
    0 ≤ size ∧ memory = Memory.blank size.toNat := by
  unfold Memory.blank? at h
  split at h
  · cases h
  · cases h
    exact ⟨by omega, rfl⟩

/-- A reset that did not fail has found room for the sprites. -/
theorem sprites_of_reset {after : Console} (h : c.reset = (after, none)) :
    (Font.install c.machine.memory.cleared).2 = none := by
  simp only [Console.reset] at h
  split at h
  · cases h
  · rename_i hinstall
    rw [hinstall]

/-- What switching a console on comes to: finding a memory and resetting. -/
theorem poweredOn?_ok {speaker : Speaker} {display : Display} {random : RandomSource}
    {log : List DeviceCall} (h : poweredOn? settings speaker display random log = .ok c) :
    ∃ memory interval, Memory.blank? settings.memorySize settings.hostCapacity = some memory ∧
      (unreset settings memory interval speaker display random log).reset = (c, none) := by
  unfold poweredOn? at h
  split at h
  · cases h
  · rename_i memory hmemory
    split at h
    · cases h
    · rename_i interval _
      split at h
      · cases h
      · rename_i after hreset
        cases h
        exact ⟨memory, interval, hmemory, hreset⟩

/-- A console that was switched on is a reset of one that is well-formed, since the sprites were
found to fit. -/
theorem poweredOn?_reset {speaker : Speaker} {display : Display} {random : RandomSource}
    {log : List DeviceCall} (h : poweredOn? settings speaker display random log = .ok c) :
    ∃ memory interval,
      (unreset settings memory interval speaker display random log).WellFormed settings ∧
      (unreset settings memory interval speaker display random log).reset = (c, none) := by
  obtain ⟨memory, interval, hmemory, hreset⟩ := poweredOn?_ok h
  obtain ⟨hsize, rfl⟩ := blank?_eq_some hmemory
  have hsprites := sprites_of_reset hreset
  refine ⟨_, interval, ?_, hreset⟩
  refine ⟨⟨?_, rfl, Cpu.inRange_initial, Screen.coherent_standard⟩, ?_, rfl, fun _ => rfl⟩
  · show ((Memory.blank settings.memorySize.toNat).size : Int) = settings.memorySize
    rw [Memory.size_blank, Int.toNat_of_nonneg hsize]
  · have hcleared : (Memory.blank settings.memorySize.toNat).cleared =
        Memory.blank settings.memorySize.toNat := by
      rw [Memory.cleared, Memory.size_blank]
    rw [← hcleared]
    exact hsprites

theorem wellFormed_poweredOn {speaker : Speaker} {display : Display} {random : RandomSource}
    {log : List DeviceCall} (h : poweredOn? settings speaker display random log = .ok c) :
    c.WellFormed settings := by
  obtain ⟨memory, interval, hunreset, hreset⟩ := poweredOn?_reset h
  have hafter := hunreset.reset
  rw [hreset] at hafter
  exact hafter

/-- Whatever is reachable is well-formed. -/
theorem Reachable.wellFormed (h : Reachable settings c) : c.WellFormed settings := by
  induction h with
  | poweredOn on => exact wellFormed_poweredOn on
  | apply _ operation ih => exact ih.apply operation

/-! ### Bounds -/

/-- The bounds of all that there is to see in a console with some settings.  Some of them the types
keep already. -/
structure InBounds (settings : Settings) (c : Console) : Prop where
  /-- There are sixteen registers of eight bits. -/
  registers : c.machine.cpu.v.toList.length = 16 ∧
    ∀ value ∈ c.machine.cpu.v.toList, 0 ≤ (value.toNat : Int) ∧ (value.toNat : Int) ≤ 255
  delay : 0 ≤ c.machine.cpu.delay ∧ c.machine.cpu.delay ≤ 255
  sound : 0 ≤ c.machine.cpu.sound ∧ c.machine.cpu.sound ≤ 255
  index : 0 ≤ c.machine.cpu.index
  pc : 0 ≤ c.machine.cpu.pc ∧ c.machine.cpu.pc ≤ max (settings.memorySize + 2) 0x10FE
  /-- There are no more open calls than may be, and each goes back into memory or to its end. -/
  stack : (c.machine.cpu.stack.length : Int) ≤ max settings.stackDepth 0 ∧
    ∀ address ∈ c.machine.cpu.stack, 2 ≤ address ∧ address ≤ settings.memorySize
  memory : (c.machine.memory.bytes.size : Int) = settings.memorySize
  pixels : c.machine.screen.pixels.size = 2048 ∧
    ∀ on ∈ c.machine.screen.pixels, Screen.colour on = 0 ∨ Screen.colour on = 1
  /-- What is pending is a pixel of the picture, in the colour it has. -/
  pending : ∀ (index : Int) on, c.machine.screen.pending[index]? = some on →
    0 ≤ index ∧ index < 2048 ∧ c.machine.screen.pixels[index.toNat]? = some on
  keys : c.machine.keypad.held.toList.length = 16 ∧ c.machine.keypad.tapped.toList.length = 16 ∧
    c.machine.keypad.latched.toList.length = 16
  /-- A processor that does not run waits for the key of one of the registers. -/
  waiting : c.machine.cpu.running = false ↔
    ∃ x : Register, c.machine.cpu.mode = .awaitingKey x

/-- **Nothing leaves its bounds**, whatever programs are loaded, keys pressed and numbers drawn, and
in whatever order. -/
theorem reachable_inBounds (h : Reachable settings c) : c.InBounds settings := by
  have hmachine := h.wellFormed.machine
  have hsize : (c.machine.screen.pixels.size : Int) = 2048 := hmachine.screen.size
  refine ⟨⟨by simp, fun value _ => Cpu.byte_bounds value⟩, hmachine.cpu.delay, hmachine.cpu.sound,
    hmachine.cpu.index, hmachine.cpu.pc, ⟨hmachine.cpu.nesting, hmachine.cpu.stack⟩,
    hmachine.memory, ⟨by omega, ?_⟩, ?_, by simp, Cpu.running_eq_false⟩
  · intro on _
    cases on with
    | false => exact Or.inl rfl
    | true => exact Or.inr rfl
  · intro index on hon
    obtain ⟨hlow, (hhigh : index < 2048), hlit⟩ := hmachine.screen.pending index on hon
    exact ⟨hlow, hhigh, Screen.pixel_of_lit hlow (by omega) hlit⟩

/-! ### Small consoles -/

/-- The settings of a console with room for a program of one instruction. -/
def smallSettings : Settings := { memorySize := 0x202, stackDepth := 1, stepsPerFrame := 1 }

/-- A console with room for a program of one instruction. -/
def small : Console :=
  (unreset smallSettings (.blank 0x202) ⟨0x3F91111111111111⟩ (.silent Speaker.standardVolume)
    (.recording .blank) (.cycle []) []).reset.1

set_option maxRecDepth 4000 in
theorem small_poweredOn :
    poweredOn? smallSettings (.silent Speaker.standardVolume) (.recording .blank) (.cycle []) [] =
      .ok small := rfl

theorem small_load_reachable (program : List UInt8) :
    Reachable smallSettings (small.apply (.load program)) :=
  (Reachable.poweredOn small_poweredOn).apply (.load program)

/-- The settings of a console with room for two instructions, which make a frame. -/
def pairSettings : Settings := { memorySize := 0x204, stackDepth := 1, stepsPerFrame := 2 }

/-- A console with room for two instructions. -/
def pair : Console :=
  (unreset pairSettings (.blank 0x204) ⟨0x3F91111111111111⟩ (.silent Speaker.standardVolume)
    (.recording .blank) (.cycle []) []).reset.1

set_option maxRecDepth 4000 in
theorem pair_poweredOn :
    poweredOn? pairSettings (.silent Speaker.standardVolume) (.recording .blank) (.cycle []) [] =
      .ok pair := rfl

/-- The settings of a console with room for four instructions, which make a frame, and for two
bytes. -/
def quadSettings : Settings := { memorySize := 0x20A, stackDepth := 1, stepsPerFrame := 4 }

/-- A console with room for four instructions and two bytes. -/
def quad : Console :=
  (unreset quadSettings (.blank 0x20A) ⟨0x3F91111111111111⟩ (.silent Speaker.standardVolume)
    (.recording .blank) (.cycle []) []).reset.1

set_option maxRecDepth 4000 in
theorem quad_poweredOn :
    poweredOn? quadSettings (.silent Speaker.standardVolume) (.recording .blank) (.cycle []) [] =
      .ok quad := rfl

/-- A program that writes a register behind itself, and then its last instruction calls itself. -/
def calling : List UInt8 := [0x60, 0x07, 0xA2, 0x08, 0xF0, 0x55, 0x22, 0x06]

set_option maxRecDepth 4000 in
/-- After the first call there is one byte more in memory, and an address on the stack that is full
with it. -/
theorem quad_called_inBounds :
    ((quad.apply (.load calling)).apply .tick).machine.memory.byteAt 0x208 = 7 ∧
      ((quad.apply (.load calling)).apply .tick).machine.cpu.stack = [0x208] ∧
      ((quad.apply (.load calling)).apply .tick).machine.cpu.pc = 0x206 ∧
      ((quad.apply (.load calling)).apply .tick).InBounds quadSettings := by
  have hbounds := reachable_inBounds
    (((Reachable.poweredOn quad_poweredOn).apply (.load calling)).apply .tick)
  have hstarts : (quad.apply (.load calling)).active = true ∧
      (quad.apply (.load calling)).machine.cpu.mode = .running := by decide +kernel
  have hran : (ended? 4 (quad.apply (.load calling)).machine).map
      (fun m => (m.memory.byteAt 0x208, m.cpu.stack, m.cpu.pc)) =
        some (7, [0x208], 0x206) := by decide +kernel
  obtain ⟨after, hleaves, htick⟩ := tick_of_ended hstarts.1 hstarts.2 hran
  have hbyte : after.memory.byteAt 0x208 = 7 := congrArg (·.1) hleaves
  have hstack : after.cpu.stack = [0x208] := congrArg (·.2.1) hleaves
  have hpc : after.cpu.pc = 0x206 := congrArg (·.2.2) hleaves
  rw [apply_tick, htick] at hbounds ⊢
  exact ⟨hbyte, hstack, hpc, hbounds⟩

end ChipEight.Console
