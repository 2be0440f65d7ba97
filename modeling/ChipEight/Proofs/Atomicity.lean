/-
A fault takes back nothing because there is nothing to take back.

`Fails` says for each instruction what makes it fail.  `perform_error` goes through the
instruction set and finds that whatever an instruction checks, it checks before it
changes anything, so that a fault finds the machine as the instruction found it.  A step
changes two things before the instruction begins, the operand and the program counter.
The program counter is put back; the operand stays, and says what was tried.

From that it follows that a fault repeats itself.  A second step fetches at the same
place, so it tries the same operand on the same machine.
-/
import ChipEight.Proofs.Action
import ChipEight.Proofs.Memory

namespace ChipEight.Machine

open ChipEight.Machine.Action

/-- What makes an instruction fail, and with which fault. -/
inductive Fails (m : Machine) : Instruction → Fault → Prop
  /-- There is no call to return from. -/
  | ret (empty : m.cpu.stack = []) : Fails m .ret .stackUnderflow
  /-- There are as many calls open as may be. -/
  | call {nnn : ShortAddress} (full : m.stackDepth ≤ m.cpu.stack.length) :
      Fails m (.call nnn) (.stackOverflow m.stackDepth)
  /-- The rows are not all in memory. -/
  | draw {x y : Register} {n : Fin 16} {fault : Fault}
      (outside : m.memory.readBytes m.cpu.index (n : Nat) = .error fault) :
      Fails m (.draw x y n) fault
  /-- There is no room for the digits. -/
  | storeDecimal {x : Register} {fault : Fault}
      (outside : m.memory.store m.cpu.index (decimalDigits (m.cpu.reg x)) = .error fault) :
      Fails m (.storeDecimal x) fault
  /-- There is no room for the registers. -/
  | store {x : Register} {fault : Fault}
      (outside : m.memory.store m.cpu.index (m.cpu.firstRegs x) = .error fault) :
      Fails m (.store x) fault
  /-- There are not enough bytes for the registers. -/
  | restore {x : Register} {fault : Fault}
      (outside : m.memory.readBytes m.cpu.index ((x : Nat) + 1) = .error fault) :
      Fails m (.restore x) fault

/-- Why an instruction stopped short: it failed, or it was to draw where there is no pixel. -/
def Stops (m : Machine) (instruction : Instruction) : Stop → Prop
  | .fault fault => Fails m instruction fault
  | .crash _ => ∃ x y rows, m.screen.drawSprite? x y rows = none

/-- No instruction stops short after its first change. -/
theorem perform_error {instruction : Instruction} {m after : Machine} {stop : Stop}
    (h : (perform instruction).run m = .error stop after) :
    after = m ∧ Stops m instruction stop := by
  cases instruction with rw [perform] at h
  | clear => cases h
  | ret =>
      simp only [EStateM.run_bind, run_getCpu] at h
      split at h
      · rename_i hempty
        cases h
        exact ⟨rfl, .ret hempty⟩
      · cases h
  | jump nnn => cases h
  | call nnn =>
      simp only [EStateM.run_bind, EStateM.run_get] at h
      split at h
      · rename_i hfull
        cases h
        exact ⟨rfl, .call hfull⟩
      · cases h
  | skip condition =>
      simp only [EStateM.run_bind, EStateM.run_get] at h
      split at h <;> cases h
  | load x kk => cases h
  | add x kk => cases h
  | compute computation x y => cases h
  | loadIndex nnn => cases h
  | jumpAhead nnn => cases h
  | random x kk => cases h
  | draw x y n =>
      -- The rows are read before anything is drawn, and drawing does not fault.
      simp only [EStateM.run_bind, run_getCpu, run_askMemory] at h
      cases hrows : m.memory.readBytes m.cpu.index (n : Nat) with
      | error cause =>
          rw [hrows] at h
          cases h
          exact ⟨rfl, .draw hrows⟩
      | ok rows =>
          simp only [hrows, run_drawSprite] at h
          cases hdrawn : m.screen.drawSprite? (m.cpu.reg x).toNat (m.cpu.reg y).toNat rows with
          | none =>
              rw [hdrawn] at h
              cases h
              exact ⟨rfl, _, _, rows, hdrawn⟩
          | some drawn =>
              rw [hdrawn] at h
              cases h
  | readDelay x => cases h
  | awaitKey x => cases h
  | setDelay x => cases h
  | setSound x =>
      simp only [EStateM.run_bind, run_modifyCpu, run_getCpu] at h
      split at h
      · rw [run_playTone] at h
        cases h
      · cases h
  | addIndex x => cases h
  | loadDigit x => cases h
  | storeDecimal x =>
      simp only [EStateM.run_bind, run_getCpu, run_store] at h
      split at h <;> cases h
      exact ⟨rfl, .storeDecimal ‹_›⟩
  | store x =>
      simp only [EStateM.run_bind, run_getCpu, run_store] at h
      split at h <;> cases h
      exact ⟨rfl, .store ‹_›⟩
  | restore x =>
      simp only [EStateM.run_bind, run_getCpu, run_askMemory] at h
      cases hvalues : m.memory.readBytes m.cpu.index ((x : Nat) + 1) with
      | error cause =>
          rw [hvalues] at h
          cases h
          exact ⟨rfl, .restore hvalues⟩
      | ok values =>
          rw [hvalues] at h
          cases h

theorem perform_fault {instruction : Instruction} {m after : Machine} {fault : Fault}
    (h : (perform instruction).run m = .error (.fault fault) after) :
    after = m ∧ Fails m instruction fault :=
  perform_error h

/-- No instruction fails by not being one. -/
theorem Fails.ne_unknownOpcode {m : Machine} {instruction : Instruction} {word : Int}
    {place : Option Int} : ¬ Fails m instruction (.unknownOpcode word place) := by
  intro h
  cases h with
  | draw outside =>
      obtain ⟨-, -, hfault⟩ := Memory.readBytes_error_iff.1 outside
      cases hfault
  | storeDecimal outside =>
      obtain ⟨-, -, hfault⟩ := Memory.store_error_iff.1 outside
      cases hfault
  | store outside =>
      obtain ⟨-, -, hfault⟩ := Memory.store_error_iff.1 outside
      cases hfault
  | restore outside =>
      obtain ⟨-, -, hfault⟩ := Memory.readBytes_error_iff.1 outside
      cases hfault

/-! ### Steps -/

theorem run_execute (operand : Int) (m : Machine) :
    (execute operand).run m =
      match Instruction.decode operand with
      | none =>
        .error (.fault (.unknownOpcode operand none)) (m.onCpu ({ · with operand := operand }))
      | some instruction =>
        (perform instruction).run (m.onCpu ({ · with operand := operand })) := by
  simp only [execute, EStateM.run_bind, run_modifyCpu]
  cases Instruction.decode operand <;> rfl

/-- A step by its parts: fetching, executing and, after a fault, putting back. -/
theorem run_step (m : Machine) :
    step.run m =
      match m.memory.readWord m.cpu.pc with
      | .error fault => .error (.fault fault) m
      | .ok operand =>
        match (execute operand).run (m.onCpu Cpu.advance) with
        | .ok _ after => .ok operand after
        | .error (.fault fault) after =>
          .error (.fault (fault.locatedAt m.cpu.pc)) (after.onCpu ({ · with pc := m.cpu.pc }))
        | .error (.crash crash) after => .error (.crash crash) after := by
  simp only [step, EStateM.run_bind, EStateM.run_pure, run_getCpu, run_askMemory]
  cases m.memory.readWord m.cpu.pc with
  | error fault => rfl
  | ok operand =>
      simp only [run_modifyCpu, run_tryCatch_putBack]
      cases (execute operand).run (m.onCpu Cpu.advance) with
      | ok a after => rfl
      | error stop after => cases stop <;> rfl

/-- A fault finds everything but the operand as it was before the execution. -/
theorem execute_fault {operand : Int} {m after : Machine} {fault : Fault}
    (h : (execute operand).run m = .error (.fault fault) after) :
    after = m.onCpu ({ · with operand := operand }) ∧
      ∀ word place, fault = .unknownOpcode word place → word = operand := by
  rw [run_execute] at h
  split at h
  · cases h
    refine ⟨rfl, ?_⟩
    intro word place hfault
    cases hfault
    rfl
  · obtain ⟨hafter, hfails⟩ := perform_fault h
    refine ⟨hafter, ?_⟩
    rintro word place rfl
    exact absurd hfails Fails.ne_unknownOpcode

/-- What a step that ends in a fault leaves: the operand that was tried, if one was fetched, and
everything else as it was. -/
theorem step_fault {m after : Machine} {fault : Fault}
    (h : step.run m = .error (.fault fault) after) :
    (m.memory.readWord m.cpu.pc = .error fault ∧ after = m) ∨
      ∃ (operand : Nat) (cause : Fault), m.memory.readWord m.cpu.pc = .ok operand ∧
        fault = cause.locatedAt m.cpu.pc ∧
        (∀ word place, cause = .unknownOpcode word place → word = operand) ∧
        after = m.onCpu ({ · with operand := operand }) := by
  rw [run_step] at h
  split at h
  · rename_i cause hfetch
    cases h
    exact Or.inl ⟨hfetch, rfl⟩
  · rename_i operand hfetch
    refine Or.inr ?_
    split at h
    · cases h
    · rename_i cause between hrun
      obtain ⟨hbetween, hword⟩ := execute_fault hrun
      cases h
      exact ⟨operand, cause, hfetch, rfl, hword, by rw [hbetween]; rfl⟩
    · cases h

/-- Only what is not part of an operand's execution decides a step. -/
theorem run_step_operand (m : Machine) {operand : Nat}
    (hfetch : m.memory.readWord m.cpu.pc = .ok operand) (tried : Int) :
    step.run (m.onCpu ({ · with operand := tried })) = step.run m := by
  simp only [run_step, onCpu_memory, onCpu_cpu, hfetch, run_execute]
  rfl

/-- **A fault changes nothing, and repeats itself.**  Where a step ends in a fault, the machine is
what it was, with its registers, timers, stack, memory, picture, keys, speaker, random numbers
and the log of its devices; the operand shows what was fetched, if anything was.  An unknown
operand is reported with the address it was fetched from.  A second step ends the same way and
changes nothing at all. -/
theorem step_fault_unchanged {m after : Machine} {fault : Fault}
    (h : step.run m = .error (.fault fault) after) :
    ((m.memory.readWord m.cpu.pc = .error fault ∧ after = m) ∨
      ∃ operand : Nat, m.memory.readWord m.cpu.pc = .ok operand ∧
        after = m.onCpu ({ · with operand := operand })) ∧
    (∀ word place, fault = .unknownOpcode word place →
      m.memory.readWord m.cpu.pc = .ok word.toNat ∧ word = after.cpu.operand ∧
        place = some m.cpu.pc) ∧
    step.run after = .error (.fault fault) after := by
  rcases step_fault h with ⟨hfetch, rfl⟩ | ⟨operand, cause, hfetch, hcause, hword, rfl⟩
  · refine ⟨Or.inl ⟨hfetch, rfl⟩, ?_, h⟩
    rintro word place rfl
    obtain ⟨_, _, hfault⟩ := Memory.readWord_error hfetch
    cases hfault
  · refine ⟨Or.inr ⟨operand, hfetch, rfl⟩, ?_, ?_⟩
    · intro word place hfault
      rw [hfault] at hcause
      cases cause with
      | unknownOpcode word' place' =>
          cases hcause
          cases hword _ _ rfl
          exact ⟨hfetch, rfl, rfl⟩
      | stackUnderflow => cases hcause
      | stackOverflow depth => cases hcause
      | outOfBounds address size => cases hcause
    · rw [run_step_operand m hfetch]
      exact h

/-- A machine that is to store `V0` and `V1` where only one of them finds room. -/
def storingAtTheEdge : Machine :=
  { Machine.poweredOn ⟨#[0xF1, 0x55, 7, 7]⟩ 16 none (.cycle []) with
    cpu := { Cpu.initial with pc := 0, index := 3 } }

set_option maxRecDepth 4000 in
/-- The byte that there is room for is not written either. -/
theorem storingAtTheEdge_unchanged :
    step.run storingAtTheEdge = .error (.fault (.outOfBounds 4 4))
      (storingAtTheEdge.onCpu ({ · with operand := 0xF155 })) ∧
    step.run (storingAtTheEdge.onCpu ({ · with operand := 0xF155 })) =
      .error (.fault (.outOfBounds 4 4))
        (storingAtTheEdge.onCpu ({ · with operand := 0xF155 })) := by
  have h : step.run storingAtTheEdge = .error (.fault (.outOfBounds 4 4))
      (storingAtTheEdge.onCpu ({ · with operand := 0xF155 })) := rfl
  exact ⟨h, (step_fault_unchanged h).2.2⟩

end ChipEight.Machine
