/-
What an instruction touches.

A machine has many parts, and an instruction has to do with a few of them.  Which ones is said
twice.  `touches` is a table of the instruction set, and `Completes.same` is the frame that goes
with it: what is not in the table is as it was.  `TouchedBy` is the same table in digits, from the
side of the parts, and does not mention an instruction.

Of some parts more can be said than that they were touched.  A register changes only if it is one
of those that an instruction is for, and a byte only within the range that is asked for.  The tone
is sounded by one instruction, once, unless it is to last for no time; and random numbers are drawn
one at a time.  `Footprint` has all of it.
-/
import ChipEight.Proofs.Arithmetic
import ChipEight.Proofs.Unseen

namespace ChipEight

/-- The parts of a machine that some instruction touches, but for the program counter and the
operand, which all of them do. -/
inductive Part where
  | memory
  | screen
  | registers
  | index
  | stack
  | delay
  | sound
  | mode
  /-- The speaker, and the log of what the devices were asked for. -/
  | tone
  | random
  deriving DecidableEq, Repr

/-- A part of two machines is the same. -/
def Part.Same (m after : Machine) : Part → Prop
  | memory => after.memory = m.memory
  | screen => after.screen = m.screen
  | registers => after.cpu.v = m.cpu.v
  | index => after.cpu.index = m.cpu.index
  | stack => after.cpu.stack = m.cpu.stack
  | delay => after.cpu.delay = m.cpu.delay
  | sound => after.cpu.sound = m.cpu.sound
  | mode => after.cpu.mode = m.cpu.mode
  | tone => after.speaker = m.speaker ∧ after.log = m.log
  | random => after.random = m.random

namespace Computation

/-- A computation has a flag to raise. -/
def Raises (computation : Computation) : Prop := computation.code ∈ [0x4, 0x5, 0x6, 0x7, 0xE]

instance (computation : Computation) : Decidable computation.Raises :=
  inferInstanceAs (Decidable (_ ∈ _))

theorem raised?_eq_none {computation : Computation} (h : ¬ computation.Raises) (a b : Nat) :
    computation.raised? a b = none := by
  cases computation with
  | copy | or | and | xor => rfl
  | add | sub | shiftRight | subFrom | shiftLeft => exact absurd (by decide) h

theorem ofCode?_code {code : Nat} {computation : Computation} (h : ofCode? code = some computation) :
    code = computation.code := by
  unfold ofCode? at h
  split at h <;> cases h <;> rfl

end Computation

namespace Instruction

variable {word code : Nat} {instruction : Instruction} {x z : Register}

/-! ### The table of the instruction set -/

/-- The parts that an instruction may change. -/
def touches : Instruction → List Part
  | clear => [.screen]
  | ret | call _ => [.stack]
  | jump _ | jumpAhead _ | skip _ => []
  | load _ _ | add _ _ | compute _ _ _ | readDelay _ | restore _ => [.registers]
  | loadIndex _ | addIndex _ | loadDigit _ => [.index]
  | random _ _ => [.random, .registers]
  | draw _ _ _ => [.screen, .registers]
  | awaitKey _ => [.mode]
  | setDelay _ => [.delay]
  | setSound _ => [.sound, .tone]
  | storeDecimal _ | store _ => [.memory]

/-- The registers that an instruction may change. -/
def Changes (z : Register) : Instruction → Prop
  | load x _ | add x _ | random x _ | readDelay x => z = x
  | compute computation x _ => z = x ∨ z = .flag ∧ computation.Raises
  | draw _ _ _ => z = .flag
  | restore x => z ≤ x
  | _ => False

/-! ### The same in digits -/

/-- A word of the group `F` with these last two digits. -/
def Misc (code word : Nat) : Prop := word / 0x1000 = 0xF ∧ word % 0x100 = code

instance (code word : Nat) : Decidable (Misc code word) := inferInstanceAs (Decidable (_ ∧ _))

/-- The words that may change a part. -/
def TouchedBy (word : Nat) : Part → Prop
  | .memory => Misc 0x33 word ∨ Misc 0x55 word
  | .screen => word = 0x00E0 ∨ word / 0x1000 = 0xD
  | .registers =>
    word / 0x1000 ∈ [0x6, 0x7, 0x8, 0xC, 0xD] ∨ Misc 0x07 word ∨ Misc 0x65 word
  | .index => word / 0x1000 = 0xA ∨ Misc 0x1E word ∨ Misc 0x29 word
  | .stack => word = 0x00EE ∨ word / 0x1000 = 0x2
  | .delay => Misc 0x15 word
  | .sound | .tone => Misc 0x18 word
  | .mode => Misc 0x0A word
  | .random => word / 0x1000 = 0xC

instance (word : Nat) : (part : Part) → Decidable (TouchedBy word part)
  | .memory | .screen | .stack => inferInstanceAs (Decidable (_ ∨ _))
  | .registers | .index => inferInstanceAs (Decidable (_ ∨ _ ∨ _))
  | .delay | .sound | .tone | .mode => inferInstanceAs (Decidable (Misc _ _))
  | .random => inferInstanceAs (Decidable (_ = _))

/-- The registers that a word may change. -/
def WrittenBy (word : Nat) (z : Register) : Prop :=
  z = xOf word ∧ (word / 0x1000 ∈ [0x6, 0x7, 0x8, 0xC] ∨ Misc 0x07 word) ∨
  z = .flag ∧
    (word / 0x1000 = 0xD ∨ word / 0x1000 = 0x8 ∧ word % 0x10 ∈ [0x4, 0x5, 0x6, 0x7, 0xE]) ∨
  z ≤ xOf word ∧ Misc 0x65 word

instance (word : Nat) (z : Register) : Decidable (WrittenBy word z) :=
  inferInstanceAs (Decidable (_ ∧ _ ∨ _ ∧ _ ∨ _ ∧ _))

/-- The last two digits of the words of an instruction of the group `F`. -/
def miscCode? : Instruction → Option Nat
  | readDelay _ => some 0x07
  | awaitKey _ => some 0x0A
  | setDelay _ => some 0x15
  | setSound _ => some 0x18
  | addIndex _ => some 0x1E
  | loadDigit _ => some 0x29
  | storeDecimal _ => some 0x33
  | store _ => some 0x55
  | restore _ => some 0x65
  | _ => none

/-- The register that an instruction names first, unless it is one that skips. -/
def first? : Instruction → Option Register
  | load x _ | add x _ | compute _ x _ | random x _ | draw x _ _ | readDelay x | awaitKey x
  | setDelay x | setSound x | addIndex x | loadDigit x | storeDecimal x | store x | restore x =>
    some x
  | _ => none

theorem ofMiscCode?_code (h : ofMiscCode? x code = some instruction) :
    instruction.miscCode? = some code := by
  unfold ofMiscCode? at h
  split at h <;> cases h <;> rfl

theorem ofMiscCode?_first (h : ofMiscCode? x code = some instruction) :
    instruction.first? = some x := by
  unfold ofMiscCode? at h
  split at h <;> cases h <;> rfl

theorem misc_of_miscCode? (hdecode : ofWord? word = some instruction)
    (h : instruction.miscCode? = some code) : Misc code word := by
  have hgroup : word / 0x1000 = 0xF := by
    rw [ofWord?_group hdecode]
    cases instruction <;> first | rfl | cases h
  rw [ofWord?_misc hgroup] at hdecode
  rw [ofMiscCode?_code hdecode, Option.some_inj] at h
  exact ⟨hgroup, h⟩

theorem xOf_of_first? (hdecode : ofWord? word = some instruction)
    (h : instruction.first? = some x) : xOf word = x := by
  unfold ofWord? Digits.instruction? at hdecode
  split at hdecode
  case h_1 | h_15 =>
    split at hdecode
    · cases hdecode
      cases h
    · split at hdecode <;> cases hdecode
      cases h
  case h_9 =>
    obtain ⟨computation, -, rfl⟩ := Option.map_eq_some_iff.1 hdecode
    exact Option.some_inj.1 h
  case h_16 =>
    rw [ofMiscCode?_first hdecode] at h
    exact Option.some_inj.1 h
  all_goals cases hdecode
  all_goals
    cases h
    try rfl

theorem digit_of_compute {computation : Computation} {y : Register}
    (hdecode : ofWord? word = some (compute computation x y)) :
    word % 0x10 = computation.code := by
  have hgroup : word / 0x1000 = 0x8 := ofWord?_group hdecode
  rw [ofWord?_of_group hgroup] at hdecode
  obtain ⟨computation', hcode, heq⟩ := Option.map_eq_some_iff.1 hdecode
  cases heq
  exact Computation.ofCode?_code hcode

theorem ofWord?_eq_clear_iff : ofWord? word = some clear ↔ word = 0x00E0 := by
  constructor
  · intro h
    rw [ofWord?_zero (ofWord?_group h)] at h
    split at h
    · assumption
    · split at h <;> cases h
  · rintro rfl
    rfl

/-- The table of the instruction set is the one in digits. -/
theorem touchedBy_of_touches {part : Part} (hdecode : ofWord? word = some instruction)
    (h : part ∈ instruction.touches) : TouchedBy word part := by
  have hgroup := ofWord?_group hdecode
  have hmisc : ∀ {code}, instruction.miscCode? = some code → Misc code word :=
    misc_of_miscCode? hdecode
  cases instruction with
  | clear =>
      cases List.mem_singleton.1 h
      exact Or.inl (ofWord?_eq_clear_iff.1 hdecode)
  | ret =>
      cases List.mem_singleton.1 h
      exact Or.inl (ofWord?_eq_ret_iff.1 hdecode)
  | call nnn =>
      cases List.mem_singleton.1 h
      exact Or.inr hgroup
  | jump nnn | jumpAhead nnn | skip condition => cases h
  | load x kk | add x kk | compute computation x y =>
      cases List.mem_singleton.1 h
      exact Or.inl (by simp [hgroup, group])
  | loadIndex nnn =>
      cases List.mem_singleton.1 h
      exact Or.inl hgroup
  | random x kk =>
      rcases List.mem_pair.1 h with rfl | rfl
      · exact hgroup
      · exact Or.inl (by simp [hgroup, group])
  | draw x y n =>
      rcases List.mem_pair.1 h with rfl | rfl
      · exact Or.inr hgroup
      · exact Or.inl (by simp [hgroup, group])
  | readDelay x =>
      cases List.mem_singleton.1 h
      exact Or.inr (Or.inl (hmisc rfl))
  | awaitKey x | setDelay x =>
      cases List.mem_singleton.1 h
      exact hmisc rfl
  | setSound x => rcases List.mem_pair.1 h with rfl | rfl <;> exact hmisc rfl
  | addIndex x =>
      cases List.mem_singleton.1 h
      exact Or.inr (Or.inl (hmisc rfl))
  | loadDigit x =>
      cases List.mem_singleton.1 h
      exact Or.inr (Or.inr (hmisc rfl))
  | storeDecimal x =>
      cases List.mem_singleton.1 h
      exact Or.inl (hmisc rfl)
  | store x =>
      cases List.mem_singleton.1 h
      exact Or.inr (hmisc rfl)
  | restore x =>
      cases List.mem_singleton.1 h
      exact Or.inr (Or.inr (hmisc rfl))

theorem writtenBy_of_changes (hdecode : ofWord? word = some instruction)
    (h : instruction.Changes z) : WrittenBy word z := by
  have hgroup := ofWord?_group hdecode
  have hmisc : ∀ {code}, instruction.miscCode? = some code → Misc code word :=
    misc_of_miscCode? hdecode
  have hfirst : ∀ {x}, instruction.first? = some x → xOf word = x := xOf_of_first? hdecode
  unfold WrittenBy
  cases instruction with
  | load x kk | add x kk | random x kk =>
      rw [hfirst rfl]
      exact Or.inl ⟨h, Or.inl (by simp [hgroup, group])⟩
  | compute computation x y =>
      rw [hfirst rfl, digit_of_compute hdecode]
      rcases h with hx | ⟨hflag, hraises⟩
      · exact Or.inl ⟨hx, Or.inl (by simp [hgroup, group])⟩
      · exact Or.inr (Or.inl ⟨hflag, Or.inr ⟨hgroup, hraises⟩⟩)
  | draw x y n => exact Or.inr (Or.inl ⟨h, Or.inl hgroup⟩)
  | readDelay x =>
      rw [hfirst rfl]
      exact Or.inl ⟨h, Or.inr (hmisc rfl)⟩
  | restore x =>
      rw [hfirst rfl]
      exact Or.inr (Or.inr ⟨h, hmisc rfl⟩)
  | _ => exact h.elim

end Instruction

namespace Machine

open Machine.Action Instruction

variable {m after : Machine} {instruction : Instruction} {word : Nat} {z : Register}

/-! ### Frames -/

theorem same_onRegisters {change : Cpu → Cpu} (h : Cpu.OnRegisters change) {part : Part}
    (hpart : part ≠ .registers) : part.Same m (m.onCpu change) := by
  have honly : m.onCpu change = m.onCpu fun c => { c with v := (change m.cpu).v } :=
    congrArg (fun cpu => { m with cpu := cpu }) (h m.cpu m.cpu rfl)
  rw [honly]
  cases part with
  | registers => exact absurd rfl hpart
  | tone => exact ⟨rfl, rfl⟩
  | _ => rfl

/-- What is not in the table is as it was. -/
theorem Completes.same (h : Completes m instruction after) {part : Part}
    (hpart : part ∉ instruction.touches) : part.Same m after := by
  cases h with
  | compute =>
      exact same_onRegisters (Cpu.onRegisters_compute _ _ _) (by simpa [touches] using hpart)
  | restore read =>
      exact same_onRegisters (Cpu.onRegisters_setFirstRegs _ _) (by simpa [touches] using hpart)
  | sound nonzero => cases part <;> simp_all [Part.Same, touches]
  | _ => cases part <;> first | rfl | exact ⟨rfl, rfl⟩ | simp [touches] at hpart

/-- A register that an instruction is not for is as it was. -/
theorem Completes.reg (h : Completes m instruction after) (hz : ¬ instruction.Changes z) :
    after.cpu.reg z = m.cpu.reg z := by
  by_cases hpart : Part.registers ∈ instruction.touches
  · cases h with
    | load | add | random | readDelay => exact (Cpu.reg_setReg _ _ _ _).trans (if_neg hz)
    | draw => exact (Cpu.reg_setReg _ _ _ _).trans (if_neg hz)
    | compute =>
        obtain ⟨hx, hflag⟩ := not_or.1 hz
        rw [← UInt8.toNat_inj, onCpu_cpu, Cpu.toNat_reg_compute, Cpu.contents, if_neg hx]
        split
        · rename_i hz
          rw [Computation.raised?_eq_none fun hraises => hflag ⟨hz, hraises⟩]
          rfl
        · rfl
    | restore read => exact (Cpu.reg_setFirstRegs _ _ _ _).trans (if_neg hz)
    | _ => simp [touches] at hpart
  · have hsame : after.cpu.v = m.cpu.v := h.same hpart
    rw [Cpu.reg, Cpu.reg, hsame]

theorem Completes.stackDepth (h : Completes m instruction after) :
    after.stackDepth = m.stackDepth := by
  cases h with
  | sound nonzero => exact onSpeaker_stackDepth _ _
  | restore read => exact onCpu_stackDepth _ _
  | _ => rfl

theorem Completes.size (h : Completes m instruction after) :
    after.memory.size = m.memory.size := by
  by_cases hpart : Part.memory ∈ instruction.touches
  · cases h with
    | storeDecimal stored | store stored => exact Memory.size_store stored
    | _ => simp [touches] at hpart
  · have hsame : after.memory = m.memory := h.same hpart
    rw [hsame]

/-- A byte outside of the range that an instruction asks for is as it was. -/
theorem Completes.byteAt (h : Completes m instruction after) {place : Nat}
    (hplace : ¬ (m.cpu.index ≤ place ∧ place < m.cpu.index + instruction.wants)) :
    after.memory.byteAt place = m.memory.byteAt place := by
  have hstored : ∀ {values memory}, values.length = instruction.wants → values ≠ [] →
      m.memory.store m.cpu.index values = .ok memory →
      memory.byteAt place = m.memory.byteAt place := by
    intro values memory hlength hvalues hstore
    obtain ⟨hlow, -⟩ := (Memory.store_ok_iff.1 ⟨memory, hstore⟩).resolve_left hvalues
    rw [Memory.byteAt_store hstore, if_neg]
    omega
  by_cases hpart : Part.memory ∈ instruction.touches
  · cases h with
    | storeDecimal stored => exact hstored rfl (by simp [decimalDigits]) stored
    | store stored =>
        have hlength := length_firstRegs m.cpu
        exact hstored (hlength _) (List.ne_nil_of_length_pos (by rw [hlength]; omega)) stored
    | _ => simp [touches] at hpart
  · have hsame : after.memory = m.memory := h.same hpart
    rw [hsame]

/-- The machine whose speaker was told, once, to sound the tone for so many ticks, unless these are
none. -/
def sounded (m : Machine) (ticks : UInt8) : Machine :=
  if ticks = 0 then m
  else m.onSpeaker fun s => ((s.play ticks.toNat).1, (s.play ticks.toNat).2.1)

theorem sounded_onCpu (m : Machine) (change : Cpu → Cpu) (ticks : UInt8) :
    (m.onCpu change).sounded ticks = (m.sounded ticks).onCpu change := by
  unfold sounded
  split
  · rfl
  · cases m with
    | mk cpu memory screen keypad speaker stackDepth random log => cases speaker <;> rfl

theorem Completes.tone {x : Register} (h : Completes m (.setSound x) after) :
    Part.tone.Same (m.sounded (m.cpu.reg x)) after := by
  cases h with
  | silence zero =>
      rw [sounded, if_pos zero]
      exact ⟨rfl, rfl⟩
  | sound nonzero =>
      have hsounded := m.sounded_onCpu (fun c => { c with sound := (c.reg x).toNat }) (m.cpu.reg x)
      rw [sounded, if_neg nonzero] at hsounded
      rw [hsounded]
      exact ⟨rfl, rfl⟩

/-! ### Footprints -/

/-- All that is different after a word that was executed, but for the program counter and the
operand. -/
structure Footprint (m : Machine) (word : Nat) (after : Machine) : Prop where
  /-- A part that the word does not touch is as it was. -/
  same : ∀ part, ¬ TouchedBy word part → part.Same m after
  registers : ∀ z, ¬ WrittenBy word z → after.cpu.reg z = m.cpu.reg z
  size : after.memory.size = m.memory.size
  /-- Only bytes that the word asks for change. -/
  bytes : ∀ place : Nat, ¬ (m.cpu.index ≤ place ∧ place < m.cpu.index + reach word) →
    after.memory.byteAt place = m.memory.byteAt place
  /-- The tone is sounded once, and for as long as the register says. -/
  tone : Misc 0x18 word → Part.tone.Same (m.sounded (m.cpu.reg (xOf word))) after
  drawn : word / 0x1000 = 0xC → after.random = m.random.advance
  keypad : after.keypad = m.keypad
  stackDepth : after.stackDepth = m.stackDepth

theorem ofWord?_sound (h : Misc 0x18 word) : ofWord? word = some (.setSound (xOf word)) := by
  rw [ofWord?_misc h.1, h.2]
  rfl

theorem ofWord?_random (h : word / 0x1000 = 0xC) :
    ofWord? word = some (.random (xOf word) (byteOf word)) :=
  ofWord?_of_group h

theorem Completes.footprint (h : Completes m instruction after)
    (hdecode : ofWord? word = some instruction) : m.Footprint word after where
  same := by
    intro part hpart
    exact h.same fun htouches => hpart (touchedBy_of_touches hdecode htouches)
  registers := by
    intro z hz
    exact h.reg fun hchanges => hz (writtenBy_of_changes hdecode hchanges)
  size := h.size
  bytes := by
    intro place hplace
    rw [← ofWord?_wants hdecode] at hplace
    exact h.byteAt hplace
  tone := by
    intro hmisc
    rw [ofWord?_sound hmisc] at hdecode
    cases hdecode
    exact h.tone
  drawn := by
    intro hgroup
    rw [ofWord?_random hgroup] at hdecode
    cases hdecode
    cases h
    rfl
  keypad := h.keypad
  stackDepth := h.stackDepth

/-- Where an instruction stands, and what was executed before it, is of no account. -/
theorem Footprint.of_onCpu (pc operand : Int)
    (h : (m.onCpu ({ · with pc := pc, operand := operand })).Footprint word after) :
    m.Footprint word after where
  same := by
    intro part hpart
    have hsame := h.same part hpart
    cases part <;> exact hsame
  registers := h.registers
  size := h.size
  bytes := h.bytes
  tone := by
    intro hmisc
    have htone := h.tone hmisc
    rw [sounded_onCpu] at htone
    exact htone
  drawn := h.drawn
  keypad := h.keypad
  stackDepth := h.stackDepth

theorem execute_footprint {operand : Int} (h : (execute operand).run m = .ok () after) :
    m.Footprint (Instruction.word operand) after := by
  rw [run_execute] at h
  split at h
  · cases h
  · rename_i instruction hdecode
    rw [decode_eq] at hdecode
    exact .of_onCpu m.cpu.pc operand ((perform_ok h).footprint hdecode)

theorem step_footprint {operand : Nat} (h : step.run m = .ok operand after) :
    m.Footprint operand after := by
  rw [run_step] at h
  split at h
  · cases h
  · rename_i hfetch
    split at h
    · rename_i hexecute
      cases h
      have hword : Instruction.word operand = operand := by
        have hlt := Memory.wordAt_lt m.memory m.cpu.pc
        rw [← (Memory.readWord_ok hfetch).2] at hlt
        unfold Instruction.word
        omega
      have hfootprint := execute_footprint hexecute
      rw [hword] at hfootprint
      exact .of_onCpu (m.cpu.pc + Cpu.instructionSize) m.cpu.operand hfootprint
    · cases h
    · cases h

/-- The machine with other keys since the last latch. -/
def withKeys (held tapped : Vector Bool 16) (m : Machine) : Machine :=
  { m with keypad := { m.keypad with held := held, tapped := tapped } }

/-- **What an instruction touches, and what it sees of the keys.**  Where an instruction comes to
its end, executed by itself or in a step, the digits of its word say which parts of the machine may
have changed, down to the single registers and bytes; the tone was sounded by one kind of word
alone, and by that once, and one random number was drawn by one kind alone.  The keys are never
changed.  They are not looked at either, as they are now and as they were since the last latch:
with others in their place the same happens, and these others are still there afterwards. -/
theorem instruction_footprint (m : Machine) :
    (∀ operand after, (execute operand).run m = .ok () after →
      m.Footprint (Instruction.word operand) after) ∧
    (∀ operand after, step.run m = .ok operand after → m.Footprint operand after) ∧
    ∀ held tapped : Vector Bool 16,
      (∀ operand, (execute operand).run (m.withKeys held tapped) =
        mapEnd (withKeys held tapped) ((execute operand).run m)) ∧
      step.run (m.withKeys held tapped) = mapEnd (withKeys held tapped) (step.run m) := by
  refine ⟨fun _ _ => execute_footprint, fun _ _ => step_footprint, ?_⟩
  intro held tapped
  refine ⟨?_, ?_⟩
  · intro operand
    exact run_execute_aside (fun _ => held) (fun _ => tapped) m operand
  · exact run_step_aside (fun _ => held) (fun _ => tapped) m

/-- A machine that is to sound the tone for as many ticks as `VF` says. -/
def chiming : Machine :=
  { Machine.poweredOn ⟨#[0xFF, 0x18]⟩ 16 (some (.silent Speaker.standardVolume)) (.cycle []) with
    cpu := { Cpu.initial.setReg .flag 5 with pc := 0 } }

set_option maxRecDepth 4000 in
/-- It sounds the tone, whichever keys are down, and no register and no byte has changed. -/
theorem chiming_sounds :
    ∃ after : Machine, step.run chiming = .ok 0xFF18 after ∧
      (after.speaker.map fun s => (s.playing, s.duration)) = some (true, 5) ∧
      after.cpu.index = 0 ∧ after.memory = chiming.memory ∧
      (∀ z, after.cpu.reg z = chiming.cpu.reg z) ∧
      ∀ held tapped, step.run (chiming.withKeys held tapped) =
        .ok 0xFF18 (after.withKeys held tapped) := by
  obtain ⟨after, hrun⟩ : ∃ after, step.run chiming = .ok 0xFF18 after := ⟨_, rfl⟩
  obtain ⟨-, hsteps, hkeys⟩ := instruction_footprint chiming
  have hfootprint := hsteps 0xFF18 after hrun
  refine ⟨after, hrun, ?_, ?_, ?_, ?_, ?_⟩
  · rw [(hfootprint.tone (by decide)).1]
    rfl
  · exact hfootprint.same .index (by decide)
  · exact hfootprint.same .memory (by decide)
  · intro z
    exact hfootprint.registers z (by revert z; decide)
  · intro held tapped
    rw [(hkeys held tapped).2, hrun]
    rfl

end Machine

end ChipEight
