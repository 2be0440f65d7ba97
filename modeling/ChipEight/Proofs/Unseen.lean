/-
What instructions do not see.

An operand is an integer, and the machine keeps it as it came.  But the decoder sees sixteen bits of
it only, and once it is decoded, an instruction does not look at the operand any more.  Neither does it look at
the keys as they are now, since a program reads the latched ones.  What is changed there stays
changed and has no part in anything: `run_perform_aside` says so of the whole instruction set.
-/
import ChipEight.Proofs.Completion

namespace ChipEight

namespace Machine

open Machine.Action Instruction

/-! ### Changes aside -/

/-- The machine with another operand, and with other keys since the last latch. -/
def aside (onOperand : Int → Int) (onHeld onTapped : Vector Bool 16 → Vector Bool 16)
    (m : Machine) : Machine :=
  { m with
    cpu := { m.cpu with operand := onOperand m.cpu.operand }
    keypad :=
      { m.keypad with
        held := onHeld m.keypad.held
        tapped := onTapped m.keypad.tapped } }

/-- The end of an action with a change of the machine that it left. -/
def mapEnd {α : Type} (change : Machine → Machine) :
    EStateM.Result Stop Machine α → EStateM.Result Stop Machine α
  | .ok answer after => .ok answer (change after)
  | .error stop after => .error stop (change after)

section

variable (onOperand : Int → Int) (onHeld onTapped : Vector Bool 16 → Vector Bool 16) (m : Machine)

@[simp] theorem aside_cpu : (m.aside onOperand onHeld onTapped).cpu =
    { m.cpu with operand := onOperand m.cpu.operand } := rfl

@[simp] theorem aside_memory : (m.aside onOperand onHeld onTapped).memory = m.memory := rfl

@[simp] theorem aside_screen : (m.aside onOperand onHeld onTapped).screen = m.screen := rfl

@[simp] theorem aside_stackDepth :
    (m.aside onOperand onHeld onTapped).stackDepth = m.stackDepth := rfl

/-- A condition on the keys asks for the latched ones. -/
theorem holds_aside (condition : Condition) :
    (m.aside onOperand onHeld onTapped).holds condition = m.holds condition := by
  cases condition <;> rfl

theorem onSpeaker_aside (action : Speaker → Speaker × List DeviceCall) :
    (m.aside onOperand onHeld onTapped).onSpeaker action =
      (m.onSpeaker action).aside onOperand onHeld onTapped := by
  cases m with
  | mk cpu memory screen keypad speaker stackDepth random log => cases speaker <;> rfl

theorem onCpu_aside {change : Cpu → Cpu}
    (h : ∀ c : Cpu, change { c with operand := onOperand c.operand } =
      { change c with operand := onOperand (change c).operand }) :
    (m.aside onOperand onHeld onTapped).onCpu change =
      (m.onCpu change).aside onOperand onHeld onTapped :=
  congrArg (fun cpu => { m.aside onOperand onHeld onTapped with cpu := cpu }) (h m.cpu)

theorem onRegisters_aside {change : Cpu → Cpu} (h : Cpu.OnRegisters change) (c : Cpu) :
    change { c with operand := onOperand c.operand } =
      { change c with operand := onOperand (change c).operand } := by
  have hsame := h c c rfl
  have haside := h c { c with operand := onOperand c.operand } rfl
  rw [haside, hsame]

/-! ### Instructions and steps -/

/-- An instruction does the same with a change aside and without it, and the change is still there
when it is done. -/
theorem run_perform_aside (instruction : Instruction) :
    (perform instruction).run (m.aside onOperand onHeld onTapped) =
      mapEnd (aside onOperand onHeld onTapped) ((perform instruction).run m) := by
  cases instruction with rw [perform]
  | ret =>
      simp only [EStateM.run_bind, run_getCpu, aside_cpu]
      cases m.cpu.stack <;> rfl
  | call nnn =>
      simp only [EStateM.run_bind, EStateM.run_get, aside_cpu, aside_stackDepth]
      by_cases hfull : m.stackDepth ≤ m.cpu.stack.length
      · simp only [hfull, if_true]
        rfl
      · simp only [hfull, if_false]
        rfl
  | skip condition =>
      simp only [EStateM.run_bind, EStateM.run_get, holds_aside]
      split <;> rfl
  | compute computation x y =>
      have hregisters := Cpu.onRegisters_compute computation x y
      rw [run_modifyCpu, run_modifyCpu, onCpu_aside _ _ _ _ (onRegisters_aside _ hregisters)]
      rfl
  | draw x y n =>
      simp only [EStateM.run_bind, run_getCpu, run_askMemory, aside_cpu, aside_memory]
      cases m.memory.readBytes m.cpu.index (n : Nat) with
      | error fault => rfl
      | ok rows =>
          simp only [run_drawSprite, aside_screen, Cpu.reg]
          cases m.screen.drawSprite? (m.cpu.v.get x).toNat (m.cpu.v.get y).toNat rows <;> rfl
  | setSound x =>
      simp only [EStateM.run_bind, run_modifyCpu, run_getCpu, onCpu_cpu, aside_cpu, Cpu.reg]
      by_cases hzero : m.cpu.v.get x = 0
      · simp only [hzero, ne_eq, not_true, if_false]
        rfl
      · simp only [hzero, ne_eq, not_false_iff, if_true, run_playTone]
        rw [onCpu_aside _ _ _ _ (fun _ => rfl), onSpeaker_aside]
        rfl
  | storeDecimal x =>
      simp only [EStateM.run_bind, run_getCpu, run_store, aside_cpu, aside_memory, Cpu.reg]
      cases m.memory.store m.cpu.index (decimalDigits (m.cpu.v.get x)) <;> rfl
  | store x =>
      simp only [EStateM.run_bind, run_getCpu, run_store, aside_cpu, aside_memory, Cpu.firstRegs]
      cases m.memory.store m.cpu.index (m.cpu.v.toList.take (x + 1)) <;> rfl
  | restore x =>
      simp only [EStateM.run_bind, run_getCpu, run_askMemory, aside_cpu, aside_memory]
      cases m.memory.readBytes m.cpu.index ((x : Nat) + 1) with
      | error fault => rfl
      | ok values =>
          simp only [run_modifyCpu]
          rw [onCpu_aside _ _ _ _ (onRegisters_aside _ (Cpu.onRegisters_setFirstRegs x values))]
          rfl
  | _ => rfl

end

section

variable (onHeld onTapped : Vector Bool 16 → Vector Bool 16) (m : Machine)

theorem run_execute_aside (operand : Int) :
    (execute operand).run (m.aside id onHeld onTapped) =
      mapEnd (aside id onHeld onTapped) ((execute operand).run m) := by
  rw [run_execute, run_execute, onCpu_aside _ _ _ _ (fun _ => rfl)]
  cases decode operand with
  | none => rfl
  | some instruction => exact run_perform_aside id onHeld onTapped _ instruction

theorem run_step_aside :
    step.run (m.aside id onHeld onTapped) = mapEnd (aside id onHeld onTapped) (step.run m) := by
  rw [run_step, run_step, aside_memory, aside_cpu]
  cases m.memory.readWord m.cpu.pc with
  | error fault => rfl
  | ok operand =>
      have hadvance : (m.aside id onHeld onTapped).onCpu Cpu.advance =
          (m.onCpu Cpu.advance).aside id onHeld onTapped :=
        onCpu_aside _ _ _ _ fun _ => rfl
      simp only [hadvance, run_execute_aside]
      cases (execute operand).run (m.onCpu Cpu.advance) with
      | ok answer after => rfl
      | error stop after => cases stop <;> rfl

end

/-- **Only the low sixteen bits of an operand count.**  The masks of the decoder cut the same digits
out of an operand as out of its remainder, and so the two are executed alike.  Either both come to
their end, and leave machines that show different operands and are otherwise one; or no instruction
has them, and each is reported as it is; or both end for the same other reason.  Where they do not
come to their end, nothing has changed but the operand. -/
theorem execute_low_bits (m : Machine) (operand : Int) :
    let low := operand % 0x10000
    Masked operand (word low) ∧ Masked low (word low) ∧
    ((∃ after : Machine,
        (execute operand).run m = .ok () (after.onCpu ({ · with operand := operand })) ∧
        (execute low).run m = .ok () (after.onCpu ({ · with operand := low }))) ∨
      ((execute operand).run m = .error (.fault (.unknownOpcode operand none))
          (m.onCpu ({ · with operand := operand })) ∧
        (execute low).run m = .error (.fault (.unknownOpcode low none))
          (m.onCpu ({ · with operand := low }))) ∨
      ∃ stop, (∀ word place, stop ≠ .fault (.unknownOpcode word place)) ∧
        (execute operand).run m = .error stop (m.onCpu ({ · with operand := operand })) ∧
        (execute low).run m = .error stop (m.onCpu ({ · with operand := low }))) := by
  intro low
  have hmasked : Masked operand (word low) := by
    rw [word_emod]
    exact masked operand
  refine ⟨hmasked, masked low, ?_⟩
  -- Both executions are that of an instruction on the machine itself, with a change aside.
  have hexecute : ∀ tried : Int, m.onCpu ({ · with operand := tried }) =
      m.aside (fun _ => tried) id id := fun _ => rfl
  rw [run_execute, run_execute, decode_emod, hexecute, hexecute]
  cases decode operand with
  | none => exact Or.inr (Or.inl ⟨rfl, rfl⟩)
  | some instruction =>
      simp only [run_perform_aside]
      cases hrun : (perform instruction).run m with
      | ok answer after => exact Or.inl ⟨after, rfl, rfl⟩
      | error stop after =>
          obtain ⟨rfl, hstops⟩ := perform_error hrun
          refine Or.inr (Or.inr ⟨stop, ?_, rfl, rfl⟩)
          rintro word place rfl
          exact Fails.ne_unknownOpcode hstops

end Machine

end ChipEight
