/-
What a console is after a program was loaded.

A program that fits finds the console as it would find a new one with a memory of that size,
whatever happened before: `started` says what becomes of the whole console, and everything else is
read off it.  What is left of the time before is what does not belong to the program, namely the
speaker's settings, the count of frames, the display, and how many numbers were drawn.

The memory is known byte by byte.  The sprites of the digits stand below the program, so that
neither is written over the other, and everything else is zero.
-/
import ChipEight.Proofs.LifeCycle
import ChipEight.Proofs.Loading

namespace ChipEight.Console

open Machine

variable {settings settings' : Settings} {c d : Console} {program : List UInt8}

/-- A console that begins to execute a program, and knows nothing of what was before. -/
structure Fresh (size : Int) (program : List UInt8) (c : Console) : Prop where
  memorySize : (c.machine.memory.size : Int) = size
  sprites : ∀ digit < 16, ∀ row < 5, c.machine.memory.byteAt (0x50 + 5 * digit + row) =
    (Font.sprites.getD digit []).getD row 0
  image : ∀ i, (inside : i < program.length) →
    c.machine.memory.byteAt (0x200 + i) = program[i]
  /-- There is nothing but the sprites and the program. -/
  zeros : ∀ place, (place < 0x50 ∨ 0x50 + 5 * 16 ≤ place) →
    (place < 0x200 ∨ 0x200 + program.length ≤ place) → c.machine.memory.byteAt place = 0
  cpu : c.machine.cpu =
    { v := Vector.replicate 16 0, index := 0, pc := 0x200, delay := 0, sound := 0, stack := [],
      operand := 0, mode := .running }
  pixels : c.machine.screen.pixels.size = 2048 ∧ ∀ on ∈ c.machine.screen.pixels, on = false
  /-- All pixels are to be shown. -/
  pending : ∀ index : Int, c.machine.screen.pending[index]? =
    if 0 ≤ index ∧ index < 2048 then some false else none
  held : c.machine.keypad.held = Vector.replicate 16 false
  tapped : c.machine.keypad.tapped = Vector.replicate 16 false
  latched : c.machine.keypad.latched = Vector.replicate 16 false
  quiet : ∀ speaker, c.machine.speaker = some speaker →
    speaker.playing = false ∧ speaker.duration = 0
  active : c.active = true
  fault : c.fault = none

/-- What does not belong to a program is as it was. -/
structure Undisturbed (c d : Console) : Prop where
  speaker : d.machine.speaker.map (fun s => (s.audible, s.volume, s.muted)) =
    c.machine.speaker.map fun s => (s.audible, s.volume, s.muted)
  frames : d.frames = c.frames
  display : d.display = c.display
  random : d.machine.random = c.machine.random
  stackDepth : d.machine.stackDepth = c.machine.stackDepth
  stepsPerFrame : d.stepsPerFrame = c.stepsPerFrame
  interval : d.interval = c.interval
  looping : d.looping = c.looping

/-- Two consoles are at the same point of the same program. -/
structure SameStart (c d : Console) : Prop where
  cpu : d.machine.cpu = c.machine.cpu
  memory : d.machine.memory = c.machine.memory
  screen : d.machine.screen = c.machine.screen
  keypad : d.machine.keypad = c.machine.keypad
  active : d.active = c.active
  fault : d.fault = c.fault

/-! ### What becomes of a console -/

/-- The console after a program was loaded, with what is then in memory. -/
def started (c : Console) (memory : Memory) : Console :=
  { c with
    machine := Machine.onSpeaker
      { c.machine with
        memory := memory, screen := .standard, keypad := .released, cpu := .initial }
      Speaker.stop
    active := true
    fault := none }

/-- A program that is loaded was written over a memory with the sprites. -/
theorem WellFormed.load_started (h : c.WellFormed settings)
    (hloads : (c.load program).2 = none) :
    ∃ memory, settings.freshMemory.store Cpu.programStart program = .ok memory ∧
      (c.load program).1 = c.started memory := by
  have hscreen : c.machine.screen.cleared = .standard := by
    rw [Screen.cleared, h.machine.screen.width_eq, h.machine.screen.height_eq]
    rfl
  rw [h.load_eq] at hloads ⊢
  split at hloads
  · cases hloads
  · rename_i memory hstore
    refine ⟨memory, hstore, ?_⟩
    rw [h.reset_eq, started]
    simp only [resetMachine, hscreen, onSpeaker_withMemory]

theorem WellFormed.load_succeeds_iff (h : c.WellFormed settings) :
    (c.load program).2 = none ↔
      program = [] ∨ 0x200 + (program.length : Int) ≤ settings.memorySize := by
  have hsize := size_freshMemory h
  have hinside : settings.freshMemory.Inside Cpu.programStart program.length ↔
      0x200 + (program.length : Int) ≤ settings.memorySize := by
    simp only [Memory.Inside, Cpu.programStart, hsize]
    omega
  rw [h.load_eq, ← hinside]
  cases hstore : settings.freshMemory.store Cpu.programStart program with
  | error fault =>
      obtain ⟨hsome, houtside, -⟩ := Memory.store_error_iff.1 hstore
      simp [hsome, houtside]
  | ok memory =>
      have hfits : ¬ (program ≠ [] ∧
          ¬ settings.freshMemory.Inside Cpu.programStart program.length) := by
        rintro ⟨hsome, houtside⟩
        rw [Memory.store_error_iff.2 ⟨hsome, houtside, rfl⟩] at hstore
        cases hstore
      simp only [true_iff]
      by_contra hneither
      exact hfits (not_or.1 hneither)

/-! ### Memory -/

theorem byteAt_freshMemory (h : c.WellFormed settings) (place : Nat) :
    settings.freshMemory.byteAt place =
      if 0x50 ≤ place ∧ place < 0x50 + 80 then Font.sprites.flatten.getD (place - 0x50) 0
      else 0 := by
  have hinstall : Font.install (Memory.blank settings.memorySize.toNat) =
      (settings.freshMemory, none) := by
    rw [Settings.freshMemory, ← h.sprites]
  rw [Font.byteAt_install hinstall, Memory.byteAt_blank]
  rfl

theorem getD_flatten_sprites :
    ∀ digit < 16, ∀ row < 5, Font.sprites.flatten.getD (5 * digit + row) 0 =
      (Font.sprites.getD digit []).getD row 0 := by decide

/-- The bytes of a memory with the sprites and a program. -/
theorem byteAt_started (h : c.WellFormed settings) {memory : Memory}
    (hstore : settings.freshMemory.store Cpu.programStart program = .ok memory) (place : Nat) :
    memory.byteAt place =
      if 0x200 ≤ place ∧ place < 0x200 + program.length then program.getD (place - 0x200) 0
      else if 0x50 ≤ place ∧ place < 0x50 + 80 then Font.sprites.flatten.getD (place - 0x50) 0
      else 0 := by
  rw [Memory.byteAt_store hstore, byteAt_freshMemory h]
  rfl

/-! ### Everything -/

theorem fresh_started (h : c.WellFormed settings) {memory : Memory}
    (hstore : settings.freshMemory.store Cpu.programStart program = .ok memory) :
    (c.started memory).Fresh settings.memorySize program := by
  have hmemory : (c.started memory).machine.memory = memory := onSpeaker_memory _ _
  have hscreen : (c.started memory).machine.screen = .standard := onSpeaker_screen _ _
  have hkeypad : (c.started memory).machine.keypad = .released := onSpeaker_keypad _ _
  have hpixels : Screen.standard.pixels = Array.replicate 2048 false :=
    congrArg (Array.replicate · false)
      (by decide : (Screen.standardWidth * Screen.standardHeight).toNat = 2048)
  have hbytes := byteAt_started h hstore
  refine ⟨?_, ?_, ?_, ?_, onSpeaker_cpu _ _, ?_, ?_, by rw [hkeypad]; rfl, by rw [hkeypad]; rfl,
    by rw [hkeypad]; rfl, ?_, rfl, rfl⟩
  · rw [hmemory, Memory.size_store hstore]
    exact size_freshMemory h
  · intro digit hdigit row hrow
    rw [hmemory, hbytes, if_neg (by omega), if_pos (by omega),
      ← getD_flatten_sprites digit hdigit row hrow]
    congr 1
    omega
  · intro i hi
    rw [hmemory, hbytes, if_pos (by omega), Nat.add_sub_cancel_left, List.getD_eq_getElem _ _ hi]
  · intro place hsprites hprogram
    rw [hmemory, hbytes, if_neg (by omega), if_neg (by omega)]
  · rw [hscreen, hpixels]
    refine ⟨Array.size_replicate, ?_⟩
    intro on hon
    exact Array.eq_of_mem_replicate hon
  · intro index
    have hpending : Screen.standard.pending = Screen.allPending Screen.standard.pixels := by
      rw [Screen.standard, Screen.blank]
    have hoff : ∀ count place, (Array.replicate count false).getD place false = false := by
      intro count place
      rw [Array.getD_eq_getD_getElem?, Array.getElem?_replicate]
      split <;> rfl
    rw [hscreen, hpending, hpixels, Screen.getElem?_allPending, Array.size_replicate, hoff,
      Nat.cast_ofNat]
  · intro speaker hspeaker
    simp only [started, onSpeaker_speaker, Option.map_eq_some_iff] at hspeaker
    obtain ⟨before, -, rfl⟩ := hspeaker
    exact ⟨rfl, rfl⟩

theorem undisturbed_started (c : Console) (memory : Memory) :
    c.Undisturbed (c.started memory) := by
  refine ⟨?_, rfl, rfl, onSpeaker_random _ _, onSpeaker_stackDepth _ _, rfl, rfl, rfl⟩
  simp only [started, onSpeaker_speaker, Option.map_map]
  rfl

/-- Nothing of what a program finds depends on what was before it. -/
theorem sameStart_started (c d : Console) (memory : Memory) :
    (c.started memory).SameStart (d.started memory) := by
  refine ⟨?_, ?_, ?_, ?_, rfl, rfl⟩
  · simp only [started, onSpeaker_cpu]
  · simp only [started, onSpeaker_memory]
  · simp only [started, onSpeaker_screen]
  · simp only [started, onSpeaker_keypad]

theorem WellFormed.load_fresh (h : c.WellFormed settings) (hloads : (c.load program).2 = none) :
    (c.load program).1.Fresh settings.memorySize program := by
  obtain ⟨memory, hstore, hstarted⟩ := h.load_started hloads
  rw [hstarted]
  exact fresh_started h hstore

/-- A program that was loaded from a file finds everything fresh. -/
theorem WellFormed.loadFile_fresh (h : c.WellFormed settings) {d : Console} {read : Reader}
    {name : String} (hloads : c.loadFile read name = (d, none)) :
    ∃ program, read name = .ok program ∧ d.Fresh settings.memorySize program := by
  rcases c.loadFile_or read name with ⟨error, -, hfails⟩ | ⟨program, hread, hload⟩
  · rw [hfails] at hloads
    cases hloads
  · rw [hload] at hloads
    have hfresh := h.load_fresh (congrArg Prod.snd hloads)
    rw [hloads] at hfresh
    exact ⟨program, hread, hfresh⟩

theorem WellFormed.load_undisturbed (h : c.WellFormed settings)
    (hloads : (c.load program).2 = none) : c.Undisturbed (c.load program).1 := by
  obtain ⟨memory, -, hstarted⟩ := h.load_started hloads
  rw [hstarted]
  exact undisturbed_started c memory

/-- Consoles with memories of the same size can load the same programs, and start them the same. -/
theorem WellFormed.load_sameStart (h : c.WellFormed settings) (h' : d.WellFormed settings')
    (hsize : settings'.memorySize = settings.memorySize) (hloads : (c.load program).2 = none) :
    (d.load program).2 = none ∧ (c.load program).1.SameStart (d.load program).1 := by
  have hloads' : (d.load program).2 = none := by
    rw [h'.load_succeeds_iff, hsize, ← h.load_succeeds_iff, hloads]
  obtain ⟨memory, hstore, hstarted⟩ := h.load_started hloads
  obtain ⟨memory', hstore', hstarted'⟩ := h'.load_started hloads'
  have hmemory : memory' = memory := by
    rw [Settings.freshMemory, hsize] at hstore'
    rw [Settings.freshMemory, hstore'] at hstore
    exact Except.ok.inj hstore
  rw [hstarted, hstarted', hmemory]
  exact ⟨hloads', sameStart_started c d memory⟩

/-- **Loading a program forgets what was before it.**  A program can be loaded if it is empty or
fits into memory behind its start, and only then.  It finds everything fresh, whatever happened to
the console before; what does not belong to it stays as it was; and so the state in which it
starts is the same in any two consoles with memories of the same size. -/
theorem load_forgets (h : Reachable settings c) (program : List UInt8) :
    ((c.load program).2 = none ↔
      program = [] ∨ 0x200 + (program.length : Int) ≤ settings.memorySize) ∧
    ((c.load program).2 = none →
      (c.load program).1.Fresh settings.memorySize program ∧
      c.Undisturbed (c.load program).1 ∧
      ∀ settings' d, Reachable settings' d → settings'.memorySize = settings.memorySize →
        (d.load program).2 = none ∧ (c.load program).1.SameStart (d.load program).1) := by
  have hwell := h.wellFormed
  refine ⟨hwell.load_succeeds_iff, ?_⟩
  intro hloads
  refine ⟨hwell.load_fresh hloads, hwell.load_undisturbed hloads, ?_⟩
  intro settings' d hd hsize
  exact hwell.load_sameStart hd.wellFormed hsize hloads

/-- A console at the end of a program, with a key down, starts the next program afresh. -/
theorem ranOnce_load_fresh :
    (ranOnce.apply (.press 3)).machine.cpu.pc = 0x202 ∧
      ((ranOnce.apply (.press 3)).load [0x00, 0xE0]).1.Fresh 0x202 [0x00, 0xE0] := by
  obtain ⟨hfits, hfresh⟩ := load_forgets (ranOnce_reachable.apply (.press 3)) [0x00, 0xE0]
  refine ⟨?_, (hfresh (hfits.2 (Or.inr (by decide)))).1⟩
  have hpress : Still ranOnce (ranOnce.apply (.press 3)) := still_manual trivial
  rw [hpress.cpu]
  exact ranOnce_pc

end ChipEight.Console
