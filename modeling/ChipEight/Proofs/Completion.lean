/-
What an instruction leaves when it comes to its end.

`Completes` lists it, instruction by instruction.  It is the companion of `Fails`: between
them they say all that an instruction can do, and whatever is true of every completed
instruction is proved by cases on the list, without opening an action again.
-/
import ChipEight.Proofs.Classification

namespace ChipEight.Machine

open ChipEight.Machine.Action Instruction

/-- The machine that a completed instruction leaves. -/
inductive Completes (m : Machine) : Instruction → Machine → Prop
  | clear : Completes m .clear { m with screen := m.screen.cleared }
  | ret {address : Int} {rest : List Int} (calls : m.cpu.stack = address :: rest) :
      Completes m .ret (m.onCpu ({ · with pc := address, stack := rest }))
  | jump {nnn : ShortAddress} : Completes m (.jump nnn) (m.onCpu ({ · with pc := (nnn : Nat) }))
  | call {nnn : ShortAddress} (room : m.cpu.stack.length < m.stackDepth) :
      Completes m (.call nnn)
        (m.onCpu fun c => { c with pc := (nnn : Nat), stack := c.pc :: c.stack })
  | skip {condition : Condition} (holds : m.holds condition = true) :
      Completes m (.skip condition) (m.onCpu Cpu.advance)
  | goOn {condition : Condition} (fails : m.holds condition = false) :
      Completes m (.skip condition) m
  | load {x : Register} {kk : UInt8} : Completes m (.load x kk) (m.onCpu (·.setReg x kk))
  | add {x : Register} {kk : UInt8} :
      Completes m (.add x kk) (m.onCpu fun c => c.setReg x (c.reg x + kk))
  | compute {computation : Computation} {x y : Register} :
      Completes m (.compute computation x y) (m.onCpu (·.compute computation x y))
  | loadIndex {nnn : ShortAddress} :
      Completes m (.loadIndex nnn) (m.onCpu ({ · with index := (nnn : Nat) }))
  | jumpAhead {nnn : ShortAddress} :
      Completes m (.jumpAhead nnn)
        (m.onCpu fun c => { c with pc := (c.reg .base).toNat + (nnn : Nat) })
  | random {x : Register} {kk : UInt8} :
      Completes m (.random x kk)
        ({ m with random := m.random.advance }.onCpu
          (·.setReg x (kk &&& UInt8.ofInt m.random.next)))
  | draw {x y : Register} {n : Fin 16} {rows : List UInt8} {screen : Screen} {collision : Bool}
      (read : m.memory.readBytes m.cpu.index (n : Nat) = .ok rows)
      (drawn : m.screen.drawSprite? (m.cpu.reg x).toNat (m.cpu.reg y).toNat rows =
        some (screen, collision)) :
      Completes m (.draw x y n) ({ m with screen := screen }.onCpu (·.setFlag collision))
  | readDelay {x : Register} :
      Completes m (.readDelay x) (m.onCpu fun c => c.setReg x (UInt8.ofInt c.delay))
  | awaitKey {x : Register} :
      Completes m (.awaitKey x) (m.onCpu ({ · with mode := .awaitingKey x }))
  | setDelay {x : Register} :
      Completes m (.setDelay x) (m.onCpu fun c => { c with delay := (c.reg x).toNat })
  | silence {x : Register} (zero : m.cpu.reg x = 0) :
      Completes m (.setSound x) (m.onCpu fun c => { c with sound := (c.reg x).toNat })
  | sound {x : Register} (nonzero : m.cpu.reg x ≠ 0) :
      Completes m (.setSound x)
        ((m.onCpu fun c => { c with sound := (c.reg x).toNat }).onSpeaker fun s =>
          ((s.play (m.cpu.reg x).toNat).1, (s.play (m.cpu.reg x).toNat).2.1))
  | addIndex {x : Register} :
      Completes m (.addIndex x) (m.onCpu fun c => { c with index := c.index + (c.reg x).toNat })
  | loadDigit {x : Register} :
      Completes m (.loadDigit x)
        (m.onCpu fun c => { c with index := Font.addressOf (c.reg x).toNat })
  | storeDecimal {x : Register} {memory : Memory}
      (stored : m.memory.store m.cpu.index (decimalDigits (m.cpu.reg x)) = .ok memory) :
      Completes m (.storeDecimal x) { m with memory := memory }
  | store {x : Register} {memory : Memory}
      (stored : m.memory.store m.cpu.index (m.cpu.firstRegs x) = .ok memory) :
      Completes m (.store x) { m with memory := memory }
  | restore {x : Register} {values : List UInt8}
      (read : m.memory.readBytes m.cpu.index ((x : Nat) + 1) = .ok values) :
      Completes m (.restore x) (m.onCpu (·.setFirstRegs x values))

variable {m after : Machine} {instruction : Instruction}

theorem perform_ok (h : (perform instruction).run m = .ok () after) :
    Completes m instruction after := by
  cases instruction with rw [perform] at h
  | clear => cases h; exact .clear
  | ret =>
      simp only [EStateM.run_bind, run_getCpu] at h
      split at h
      · cases h
      · rename_i address rest hstack
        cases h
        exact .ret hstack
  | jump nnn => cases h; exact .jump
  | call nnn =>
      simp only [EStateM.run_bind, EStateM.run_get] at h
      split at h
      · cases h
      · rename_i hroom
        cases h
        exact .call (by omega)
  | skip condition =>
      simp only [EStateM.run_bind, EStateM.run_get] at h
      split at h
      · rename_i hholds
        cases h
        exact .skip hholds
      · rename_i hholds
        cases h
        exact .goOn (by simpa using hholds)
  | load x kk => cases h; exact .load
  | add x kk => cases h; exact .add
  | compute computation x y => cases h; exact .compute
  | loadIndex nnn => cases h; exact .loadIndex
  | jumpAhead nnn => cases h; exact .jumpAhead
  | random x kk => cases h; exact .random
  | draw x y n =>
      simp only [EStateM.run_bind, run_getCpu, run_askMemory] at h
      cases hrows : m.memory.readBytes m.cpu.index (n : Nat) with
      | error cause => rw [hrows] at h; cases h
      | ok rows =>
          simp only [hrows, run_drawSprite] at h
          cases hdrawn : m.screen.drawSprite? (m.cpu.reg x).toNat (m.cpu.reg y).toNat rows with
          | none => rw [hdrawn] at h; cases h
          | some drawn => rw [hdrawn] at h; cases h; exact .draw hrows hdrawn
  | readDelay x => cases h; exact .readDelay
  | awaitKey x => cases h; exact .awaitKey
  | setDelay x => cases h; exact .setDelay
  | setSound x =>
      simp only [EStateM.run_bind, run_modifyCpu, run_getCpu] at h
      split at h
      · rename_i hreg
        rw [run_playTone] at h
        cases h
        exact .sound hreg
      · rename_i hreg
        cases h
        exact .silence (Decidable.not_not.1 hreg)
  | addIndex x => cases h; exact .addIndex
  | loadDigit x => cases h; exact .loadDigit
  | storeDecimal x =>
      simp only [EStateM.run_bind, run_getCpu, run_store] at h
      split at h <;> cases h
      exact .storeDecimal ‹_›
  | store x =>
      simp only [EStateM.run_bind, run_getCpu, run_store] at h
      split at h <;> cases h
      exact .store ‹_›
  | restore x =>
      simp only [EStateM.run_bind, run_getCpu, run_askMemory] at h
      cases hvalues : m.memory.readBytes m.cpu.index ((x : Nat) + 1) with
      | error cause => rw [hvalues] at h; cases h
      | ok values =>
          simp only [hvalues, run_modifyCpu, EStateM.Result.ok.injEq, true_and] at h
          rw [← h]
          exact .restore hvalues

/-- A condition looks at the registers and the keys. -/
theorem holds_congr {m' : Machine} (hv : m'.cpu.v = m.cpu.v) (hkeypad : m'.keypad = m.keypad)
    (condition : Condition) : m'.holds condition = m.holds condition := by
  have hreg : ∀ x, m'.cpu.reg x = m.cpu.reg x := fun x => by rw [Cpu.reg, Cpu.reg, hv]
  cases condition <;> simp [holds, holds.keyDown, hreg, hkeypad]

/-! ### What most instructions leave alone -/

/-- No instruction touches the keys. -/
theorem Completes.keypad (h : Completes m instruction after) : after.keypad = m.keypad := by
  cases h with
  | sound nonzero => exact onSpeaker_keypad _ _
  | restore read => exact onCpu_keypad _ _
  | _ => rfl

/-- Waiting for a key is all that an instruction that waits does, and no other one waits. -/
theorem Completes.mode (h : Completes m instruction after) :
    (∃ x, instruction = .awaitKey x ∧ after = m.onCpu ({ · with mode := .awaitingKey x })) ∨
      ((∀ x, instruction ≠ .awaitKey x) ∧ after.cpu.mode = m.cpu.mode) := by
  cases h with
  | awaitKey => exact Or.inl ⟨_, rfl, rfl⟩
  | compute =>
      refine Or.inr ⟨by simp, ?_⟩
      rw [onCpu_cpu, Cpu.compute_eq]
  | sound nonzero =>
      refine Or.inr ⟨by simp, ?_⟩
      rw [onSpeaker_cpu]
      rfl
  | restore read =>
      refine Or.inr ⟨by simp, ?_⟩
      rw [onCpu_cpu, Cpu.setFirstRegs]
  | _ => exact Or.inr ⟨by simp, rfl⟩

/-- The picture is drawn on by sprites and cleared, and nothing else happens to it. -/
theorem Completes.screen (h : Completes m instruction after) :
    after.screen = m.screen ∨ after.screen = m.screen.cleared ∨
      ∃ x y rows collision, m.screen.drawSprite? x y rows = some (after.screen, collision) := by
  cases h with
  | clear => exact Or.inr (Or.inl rfl)
  | draw read drawn => exact Or.inr (Or.inr ⟨_, _, _, _, drawn⟩)
  | sound nonzero =>
      refine Or.inl ?_
      rw [onSpeaker_screen]
      rfl
  | restore read => exact Or.inl (onCpu_screen _ _)
  | _ => exact Or.inl rfl

/-! ### Steps -/

/-- The machine that an action left, whether it came to its end or not. -/
def left {α : Type} : EStateM.Result Stop Machine α → Machine
  | .ok _ after => after
  | .error _ after => after

/-- The instruction to be executed next, if the program counter is at one. -/
def next? (m : Machine) : Option Instruction :=
  match m.memory.readWord m.cpu.pc with
  | .error _ => none
  | .ok operand => decode operand

theorem run_step_of_execute {word : Nat} (hfetch : m.memory.readWord m.cpu.pc = .ok word)
    (h : (execute word).run (m.onCpu Cpu.advance) = .ok () after) :
    step.run m = .ok word after := by
  simp only [run_step, hfetch, h]

/-- A step that comes to its end has completed the next instruction. -/
theorem step_ok {operand : Nat} (h : step.run m = .ok operand after) :
    ∃ instruction, m.next? = some instruction ∧
      Completes (m.beginning operand) instruction after := by
  unfold next?
  rw [run_step] at h
  cases hfetch : m.memory.readWord m.cpu.pc with
  | error fault =>
      rw [hfetch] at h
      cases h
  | ok word =>
      rw [hfetch] at h
      simp only [run_execute] at h ⊢
      cases hdecode : decode (word : Int) with
      | none =>
          rw [hdecode] at h
          cases h
      | some instruction =>
          simp only [hdecode] at h
          split at h
          · rename_i hperform
            cases h
            exact ⟨instruction, rfl, perform_ok hperform⟩
          · cases h
          · cases h

theorem step_keypad {operand : Nat} (h : step.run m = .ok operand after) :
    after.keypad = m.keypad := by
  obtain ⟨instruction, -, hcompletes⟩ := step_ok h
  exact hcompletes.keypad

/-- A step makes the processor wait, or leaves its mode alone. -/
theorem step_mode {operand : Nat} (h : step.run m = .ok operand after) :
    (∃ x, m.next? = some (.awaitKey x) ∧
        after = (m.beginning operand).onCpu ({ · with mode := .awaitingKey x })) ∨
      ((∀ x, m.next? ≠ some (.awaitKey x)) ∧ after.cpu.mode = m.cpu.mode) := by
  obtain ⟨instruction, hnext, hcompletes⟩ := step_ok h
  rw [hnext]
  rcases hcompletes.mode with ⟨x, rfl, hafter⟩ | ⟨hother, hmode⟩
  · exact Or.inl ⟨x, rfl, hafter⟩
  · exact Or.inr ⟨by simpa using hother, hmode⟩

/-- A step that began while the processor ran, and leaves it waiting, has done nothing else. -/
theorem step_waits {operand : Nat} {x : Register} (h : step.run m = .ok operand after)
    (hruns : m.cpu.mode = .running) (hwaits : after.cpu.mode = .awaitingKey x) :
    m.next? = some (.awaitKey x) ∧
      after = (m.beginning operand).onCpu ({ · with mode := .awaitingKey x }) := by
  rcases step_mode h with ⟨y, hnext, rfl⟩ | ⟨-, hsame⟩
  · cases hwaits
    exact ⟨hnext, rfl⟩
  · rw [hsame, hruns] at hwaits
    cases hwaits

/-- What drawing keeps of the picture, a step keeps. -/
theorem step_screen {P : Screen → Prop} (kept : Screen.KeptByDrawing P) {operand : Nat}
    (h : step.run m = .ok operand after) (hscreen : P m.screen) : P after.screen := by
  obtain ⟨instruction, -, hcompletes⟩ := step_ok h
  rcases hcompletes.screen with hsame | hcleared | ⟨x, y, rows, collision, hdrawn⟩
  · rw [hsame]
    exact hscreen
  · rw [hcleared]
    exact kept.cleared hscreen
  · obtain ⟨drawn, hdrawn', hkept⟩ :=
      kept.drawSprite? x y (s := (m.beginning operand).screen) hscreen
    rw [hdrawn, Option.some_inj] at hdrawn'
    rw [← hdrawn'] at hkept
    exact hkept

/-! ### Two machines -/

/-- How the steps of two machines end that fetch the same word and have the same in their way. -/
inductive Together (m m' : Machine) :
    EStateM.Result Stop Machine Nat → EStateM.Result Stop Machine Nat → Prop
  /-- There is no word to be fetched. -/
  | unfetched (fault : Fault) :
      Together m m' (.error (.fault fault) m) (.error (.fault fault) m')
  | obstructed (word : Nat) (fault : Fault) :
      Together m m'
        (.error (.fault fault) (m.onCpu ({ · with operand := word })))
        (.error (.fault fault) (m'.onCpu ({ · with operand := word })))
  | completed (word : Nat) {instruction : Instruction} {after after' : Machine}
      (next : m.next? = some instruction) (completes : Completes (m.beginning word) instruction after)
      (completes' : Completes (m'.beginning word) instruction after') :
      Together m m' (.ok word after) (.ok word after')

section

variable {m' : Machine} (hmemory : m'.memory = m.memory) (hpc : m'.cpu.pc = m.cpu.pc)
  (hindex : m'.cpu.index = m.cpu.index) (hstack : m'.cpu.stack = m.cpu.stack)
  (hdepth : m'.stackDepth = m.stackDepth)

include hmemory hpc hindex hstack hdepth

theorem Obstacle.transfer {word : Nat} {fault : Fault} (h : Obstacle m word fault) :
    Obstacle m' word fault := by
  cases h with
  | unassigned unassigned =>
      rw [← hpc]
      exact .unassigned unassigned
  | noCall returns empty => exact .noCall returns (hstack.trans empty)
  | noRoom calls full =>
      rw [← hdepth]
      refine .noRoom calls ?_
      rwa [hdepth, hstack]
  | outOfReach outside =>
      refine .outOfReach ?_
      rwa [OutOfReach, hmemory, hindex]

theorem step_together (hscreen : m.screen.Complete) (hscreen' : m'.screen.Complete) :
    Together m m' (step.run m) (step.run m') := by
  have hobstacle : ∀ {word fault}, Obstacle m word fault → Obstacle m' word fault :=
    Obstacle.transfer hmemory hpc hindex hstack hdepth
  have hobstacle' : ∀ {word fault}, Obstacle m' word fault → Obstacle m word fault :=
    Obstacle.transfer hmemory.symm hpc.symm hindex.symm hstack.symm hdepth.symm
  by_cases hinside : m.memory.Inside m.cpu.pc 2
  · have hfetch : m.memory.readWord m.cpu.pc = .ok (m.memory.wordAt m.cpu.pc) := by
      rw [Memory.readWord_eq, if_pos hinside]
    have hfetch' : m'.memory.readWord m'.cpu.pc = .ok (m.memory.wordAt m.cpu.pc) := by
      rw [hmemory, hpc, hfetch]
    have hword := Memory.wordAt_lt m.memory m.cpu.pc
    by_cases hclear : ∀ fault, ¬ Obstacle m (m.memory.wordAt m.cpu.pc) fault
    · have hclear' : ∀ fault, ¬ Obstacle m' (m.memory.wordAt m.cpu.pc) fault :=
        fun fault hblocked => hclear fault (hobstacle' hblocked)
      obtain ⟨after, hrun⟩ := step_ends hscreen hclear hfetch hword
      obtain ⟨after', hrun'⟩ := step_ends hscreen' hclear' hfetch' hword
      obtain ⟨instruction, hnext, hcompletes⟩ := step_ok hrun
      obtain ⟨instruction', hnext', hcompletes'⟩ := step_ok hrun'
      rw [Machine.next?, hmemory, hpc, ← Machine.next?, hnext, Option.some_inj] at hnext'
      subst hnext'
      rw [hrun, hrun']
      exact .completed _ hnext hcompletes hcompletes'
    · push Not at hclear
      obtain ⟨fault, hblocked⟩ := hclear
      rw [hblocked.run_step hfetch hword, (hobstacle hblocked).run_step hfetch' hword]
      exact .obstructed _ fault
  · have hinside' : ¬ m'.memory.Inside m'.cpu.pc 2 := by rwa [hmemory, hpc]
    obtain ⟨-, hrun⟩ := fetch_fault_iff.2 hinside
    obtain ⟨-, hrun'⟩ := fetch_fault_iff.2 hinside'
    rw [hrun, hrun', hmemory, hpc]
    exact .unfetched _

end

end ChipEight.Machine
