/-
Which step ends in which fault.

`Obstacle` lists what can stand in the way of a word that was fetched, by the digits of the
word, the stack and the range at the index register, and with the fault that comes of it.
That the list is right is shown in two steps.  An instruction fails for one of the reasons of
`Fails`, and `fails_iff` brings those to the digits.  And it does nothing but fail or come to
its end: the one other way to stop, drawing where there is no pixel, needs a picture that is
not complete.

So a step has three outcomes.  It faults at the fetch, or at an obstacle, or it comes to its
end and answers with the word.
-/
import ChipEight.Proofs.Atomicity
import ChipEight.Proofs.Masks
import ChipEight.Proofs.Screen

namespace ChipEight.Machine

open ChipEight.Machine.Action Instruction

variable {m after : Machine} {instruction : Instruction} {word : Nat} {fault : Fault}

/-! ### Instructions -/

/-- So many bytes at the index register are wanted, and not all of them are there. -/
def OutOfReach (m : Machine) (length : Nat) (fault : Fault) : Prop :=
  0 < length ∧ ¬ m.memory.Inside m.cpu.index length ∧
    fault = .outOfBounds (m.memory.blamed m.cpu.index length) m.memory.size

theorem readBytes_error_iff_outOfReach {length : Nat} :
    m.memory.readBytes m.cpu.index length = .error fault ↔ m.OutOfReach length fault := by
  rw [Memory.readBytes_error_iff, OutOfReach, Int.natCast_pos]

theorem store_error_iff_outOfReach {values : List UInt8} :
    m.memory.store m.cpu.index values = .error fault ↔ m.OutOfReach values.length fault := by
  rw [Memory.store_error_iff, OutOfReach, List.length_pos_iff]

theorem length_firstRegs (c : Cpu) (x : Register) : (c.firstRegs x).length = (x : Nat) + 1 := by
  have hx := x.isLt
  rw [Cpu.firstRegs, List.length_take, Vector.length_toList]
  omega

/-- An instruction fails without a call to return from, without room for a call, or without the
bytes that it wants. -/
theorem fails_iff :
    Fails m instruction fault ↔
      (instruction = .ret ∧ m.cpu.stack = [] ∧ fault = .stackUnderflow) ∨
      ((∃ nnn, instruction = .call nnn) ∧ m.stackDepth ≤ m.cpu.stack.length ∧
        fault = .stackOverflow m.stackDepth) ∨
      m.OutOfReach instruction.wants fault := by
  constructor
  · intro h
    cases h with
    | ret empty => exact Or.inl ⟨rfl, empty, rfl⟩
    | call full => exact Or.inr (Or.inl ⟨⟨_, rfl⟩, full, rfl⟩)
    | draw outside => exact Or.inr (Or.inr (readBytes_error_iff_outOfReach.1 outside))
    | storeDecimal outside => exact Or.inr (Or.inr (store_error_iff_outOfReach.1 outside))
    | @store x fault outside =>
        have hreach := store_error_iff_outOfReach.1 outside
        rw [length_firstRegs] at hreach
        exact Or.inr (Or.inr hreach)
    | restore outside => exact Or.inr (Or.inr (readBytes_error_iff_outOfReach.1 outside))
  · rintro (⟨rfl, hempty, rfl⟩ | ⟨⟨nnn, rfl⟩, hfull, rfl⟩ | hreach)
    · exact .ret hempty
    · exact .call hfull
    · cases instruction with
      | draw x y n => exact .draw (readBytes_error_iff_outOfReach.2 hreach)
      | storeDecimal x => exact .storeDecimal (store_error_iff_outOfReach.2 hreach)
      | store x =>
          refine .store (store_error_iff_outOfReach.2 ?_)
          rw [length_firstRegs]
          exact hreach
      | restore x => exact .restore (readBytes_error_iff_outOfReach.2 hreach)
      | _ => exact absurd hreach.1 (Nat.lt_irrefl 0)

theorem Fails.run (h : Fails m instruction fault) :
    (perform instruction).run m = .error (.fault fault) m := by
  cases h with rw [perform]
  | ret empty =>
      simp only [EStateM.run_bind, run_getCpu, empty]
      rfl
  | call full =>
      simp only [EStateM.run_bind, EStateM.run_get, if_pos full]
      rfl
  | draw outside => simp only [EStateM.run_bind, run_getCpu, run_askMemory, outside]
  | storeDecimal outside => simp only [EStateM.run_bind, run_getCpu, run_store, outside]
  | store outside => simp only [EStateM.run_bind, run_getCpu, run_store, outside]
  | restore outside => simp only [EStateM.run_bind, run_getCpu, run_askMemory, outside]

/-- An instruction that does not fail comes to its end. -/
theorem perform_ends (hscreen : m.screen.Complete) (hfails : ∀ fault, ¬ Fails m instruction fault) :
    ∃ after, (perform instruction).run m = .ok () after := by
  cases hrun : (perform instruction).run m with
  | ok u after => exact ⟨after, rfl⟩
  | error stop after =>
      exfalso
      obtain ⟨-, hstops⟩ := perform_error hrun
      cases stop with
      | fault fault => exact hfails fault hstops
      | crash crash =>
          obtain ⟨x, y, rows, hnone⟩ := hstops
          obtain ⟨drawn, hdrawn, -⟩ := Screen.keptByDrawing_complete.drawSprite? x y hscreen
          rw [hnone] at hdrawn
          cases hdrawn

/-! ### Words -/

/-- What stands in the way of a word, with the fault that comes of it. -/
inductive Obstacle (m : Machine) (word : Nat) : Fault → Prop
  | unassigned (unassigned : Unassigned word) :
      Obstacle m word (.unknownOpcode word (some m.cpu.pc))
  | noCall (returns : word = 0x00EE) (empty : m.cpu.stack = []) : Obstacle m word .stackUnderflow
  | noRoom (calls : word / 0x1000 = 0x2) (full : m.stackDepth ≤ m.cpu.stack.length) :
      Obstacle m word (.stackOverflow m.stackDepth)
  | outOfReach {fault : Fault} (outside : m.OutOfReach (reach word) fault) :
      Obstacle m word fault

/-- The machine that the instruction of a word begins with. -/
def beginning (m : Machine) (word : Nat) : Machine :=
  (m.onCpu Cpu.advance).onCpu ({ · with operand := word })

theorem decode_word (hword : word < 0x10000) : decode word = ofWord? word := by
  rw [decode_eq, Instruction.word]
  congr 1
  omega

theorem obstacle_iff_fails (hdecode : ofWord? word = some instruction) (hword : word < 0x10000) :
    Obstacle m word fault ↔ Fails (m.beginning word) instruction fault := by
  rw [fails_iff, ofWord?_wants hdecode]
  constructor
  · intro h
    cases h with
    | unassigned unassigned =>
        rw [← ofWord?_eq_none_iff hword, hdecode] at unassigned
        cases unassigned
    | noCall returns empty =>
        rw [← ofWord?_eq_ret_iff, hdecode, Option.some_inj] at returns
        exact Or.inl ⟨returns, empty, rfl⟩
    | noRoom calls full =>
        obtain ⟨nnn, hcall⟩ := ofWord?_eq_call_iff.2 calls
        rw [hdecode, Option.some_inj] at hcall
        exact Or.inr (Or.inl ⟨⟨nnn, hcall⟩, full, rfl⟩)
    | outOfReach outside => exact Or.inr (Or.inr outside)
  · rintro (⟨rfl, hempty, rfl⟩ | ⟨⟨nnn, rfl⟩, hfull, rfl⟩ | houtside)
    · exact .noCall (ofWord?_eq_ret_iff.1 hdecode) hempty
    · exact .noRoom (ofWord?_eq_call_iff.1 ⟨nnn, hdecode⟩) hfull
    · exact .outOfReach houtside

theorem obstacle_unassigned_iff (hunassigned : Unassigned word) (hword : word < 0x10000) :
    Obstacle m word fault ↔ fault = .unknownOpcode word (some m.cpu.pc) := by
  have hnone := (ofWord?_eq_none_iff hword).2 hunassigned
  constructor
  · intro h
    cases h with
    | unassigned unassigned => rfl
    | noCall returns empty =>
        rw [ofWord?_eq_ret_iff.2 returns] at hnone
        cases hnone
    | noRoom calls full =>
        obtain ⟨nnn, hcall⟩ := ofWord?_eq_call_iff.2 calls
        rw [hcall] at hnone
        cases hnone
    | outOfReach outside =>
        have hreach := outside.1
        rw [reach_of_unassigned hunassigned] at hreach
        exact absurd hreach (Nat.lt_irrefl 0)
  · rintro rfl
    exact .unassigned hunassigned

/-! ### Steps -/

/-- A step whose word was fetched, by the instruction of the word. -/
theorem run_step_fetched (hfetch : m.memory.readWord m.cpu.pc = .ok word) (hword : word < 0x10000) :
    step.run m =
      match ofWord? word with
      | none =>
        .error (.fault (.unknownOpcode word (some m.cpu.pc))) (m.onCpu ({ · with operand := word }))
      | some instruction =>
        match (perform instruction).run (m.beginning word) with
        | .ok _ after => .ok word after
        | .error (.fault fault) after =>
          .error (.fault (fault.locatedAt m.cpu.pc)) (after.onCpu ({ · with pc := m.cpu.pc }))
        | .error (.crash crash) after => .error (.crash crash) after := by
  simp only [run_step, hfetch, run_execute, decode_word hword]
  cases ofWord? word <;> rfl

theorem Fails.locatedAt {address : Int} (h : Fails m instruction fault) :
    fault.locatedAt address = fault := by
  cases fault with
  | unknownOpcode operand place => exact absurd h Fails.ne_unknownOpcode
  | _ => rfl

/-- A step whose word was fetched faults at an obstacle, where it has changed nothing but the
operand. -/
theorem Obstacle.run_step (h : Obstacle m word fault)
    (hfetch : m.memory.readWord m.cpu.pc = .ok word) (hword : word < 0x10000) :
    step.run m = .error (.fault fault) (m.onCpu ({ · with operand := word })) := by
  rw [run_step_fetched hfetch hword]
  cases hdecode : ofWord? word with
  | none =>
      have hunassigned := (ofWord?_eq_none_iff hword).1 hdecode
      rw [(obstacle_unassigned_iff hunassigned hword).1 h]
  | some instruction =>
      have hfails := (obstacle_iff_fails hdecode hword).1 h
      simp only [hfails.run, hfails.locatedAt]
      rfl

/-- Without an obstacle it comes to its end. -/
theorem step_ends (hscreen : m.screen.Complete) (hclear : ∀ fault, ¬ Obstacle m word fault)
    (hfetch : m.memory.readWord m.cpu.pc = .ok word) (hword : word < 0x10000) :
    ∃ after, step.run m = .ok word after := by
  rw [run_step_fetched hfetch hword]
  cases hdecode : ofWord? word with
  | none => exact absurd (.unassigned ((ofWord?_eq_none_iff hword).1 hdecode)) (hclear _)
  | some instruction =>
      have hfails : ∀ fault, ¬ Fails (m.beginning word) instruction fault := by
        intro fault hfails
        exact hclear fault ((obstacle_iff_fails hdecode hword).2 hfails)
      obtain ⟨after, hrun⟩ := perform_ends (m := m.beginning word) hscreen hfails
      exact ⟨after, by simp only [hrun]⟩

/-- A step ends in a fault. -/
def Faults (m : Machine) (fault : Fault) : Prop :=
  ∃ after, step.run m = .error (.fault fault) after

/-- The faults of a step whose word was fetched are those of its obstacles. -/
theorem faults_iff_obstacle (hscreen : m.screen.Complete)
    (hfetch : m.memory.readWord m.cpu.pc = .ok word) (hword : word < 0x10000) :
    m.Faults fault ↔ Obstacle m word fault := by
  constructor
  · rintro ⟨after, hrun⟩
    by_cases hclear : ∀ fault, ¬ Obstacle m word fault
    · obtain ⟨after', hends⟩ := step_ends hscreen hclear hfetch hword
      rw [hends] at hrun
      cases hrun
    · push Not at hclear
      obtain ⟨fault', hobstacle⟩ := hclear
      rw [hobstacle.run_step hfetch hword] at hrun
      cases hrun
      exact hobstacle
  · intro h
    exact ⟨_, h.run_step hfetch hword⟩

theorem Obstacle.unknownOpcode_iff {operand : Int} {place : Option Int} :
    Obstacle m word (.unknownOpcode operand place) ↔
      operand = word ∧ place = some m.cpu.pc ∧ Unassigned word := by
  constructor
  · intro h
    cases h with
    | unassigned unassigned => exact ⟨rfl, rfl, unassigned⟩
    | outOfReach outside => cases outside.2.2
  · rintro ⟨rfl, rfl, hunassigned⟩
    exact .unassigned hunassigned

theorem Obstacle.stackUnderflow_iff :
    Obstacle m word .stackUnderflow ↔ word = 0x00EE ∧ m.cpu.stack = [] := by
  constructor
  · intro h
    cases h with
    | noCall returns empty => exact ⟨returns, empty⟩
    | outOfReach outside => cases outside.2.2
  · rintro ⟨hreturns, hempty⟩
    exact .noCall hreturns hempty

theorem Obstacle.stackOverflow_iff {depth : Int} :
    Obstacle m word (.stackOverflow depth) ↔
      depth = m.stackDepth ∧ word / 0x1000 = 0x2 ∧ m.stackDepth ≤ m.cpu.stack.length := by
  constructor
  · intro h
    cases h with
    | noRoom calls full => exact ⟨rfl, calls, full⟩
    | outOfReach outside => cases outside.2.2
  · rintro ⟨rfl, hcalls, hfull⟩
    exact .noRoom hcalls hfull

theorem Obstacle.outOfBounds_iff {place size : Int} :
    Obstacle m word (.outOfBounds place size) ↔
      m.OutOfReach (reach word) (.outOfBounds place size) := by
  constructor
  · intro h
    cases h with
    | outOfReach outside => exact outside
  · exact .outOfReach

/-- A step whose word cannot be fetched faults before anything has changed. -/
theorem fetch_fault_iff :
    (m.memory.readWord m.cpu.pc =
          .error (.outOfBounds (m.memory.blamed m.cpu.pc 2) m.memory.size) ∧
        step.run m =
          .error (.fault (.outOfBounds (m.memory.blamed m.cpu.pc 2) m.memory.size)) m) ↔
      ¬ m.memory.Inside m.cpu.pc 2 := by
  constructor
  · rintro ⟨hfetch, -⟩ hinside
    rw [Memory.readWord_eq, if_pos hinside] at hfetch
    cases hfetch
  · intro houtside
    have hfetch := Memory.readWord_eq m.memory m.cpu.pc
    rw [if_neg houtside] at hfetch
    exact ⟨hfetch, by rw [run_step, hfetch]⟩

/-- **Which step ends in which fault.**  A step faults at the fetch if and only if the program
counter is not at two bytes of memory.  Otherwise the digits of the word, the stack and the range
at the index register decide: the word is no instruction, it returns without a call, it calls
without room, or it wants bytes that are not all there.  In every other case the step comes to its
end, and its answer is the word. -/
theorem step_classified (hscreen : m.screen.Complete) :
    ((m.memory.readWord m.cpu.pc =
          .error (.outOfBounds (m.memory.blamed m.cpu.pc 2) m.memory.size) ∧
        step.run m =
          .error (.fault (.outOfBounds (m.memory.blamed m.cpu.pc 2) m.memory.size)) m) ↔
      m.cpu.pc < 0 ∨ m.memory.size < m.cpu.pc + 2) ∧
    (0 ≤ m.cpu.pc → m.cpu.pc + 2 ≤ m.memory.size →
      let word := m.memory.wordAt m.cpu.pc
      let noCall := word = 0x00EE ∧ m.cpu.stack = []
      let noRoom := word / 0x1000 = 0x2 ∧ m.stackDepth ≤ m.cpu.stack.length
      let outside := 0 < reach word ∧
        ¬ (0 ≤ m.cpu.index ∧ m.cpu.index + reach word ≤ m.memory.size)
      (∀ operand place, m.Faults (.unknownOpcode operand place) ↔
        operand = word ∧ place = some m.cpu.pc ∧ Unassigned word) ∧
      (m.Faults .stackUnderflow ↔ noCall) ∧
      (∀ depth, m.Faults (.stackOverflow depth) ↔ depth = m.stackDepth ∧ noRoom) ∧
      ((∃ place size, m.Faults (.outOfBounds place size)) ↔ outside) ∧
      (¬ Unassigned word → ¬ noCall → ¬ noRoom → ¬ outside →
        ∃ after, step.run m = .ok word after)) := by
  refine ⟨?_, ?_⟩
  · rw [fetch_fault_iff, Memory.Inside]
    omega
  · intro hlow hhigh word noCall noRoom outside
    have hfetch : m.memory.readWord m.cpu.pc = .ok word := by
      rw [Memory.readWord_eq, if_pos ⟨hlow, hhigh⟩]
    have hword : word < 0x10000 := Memory.wordAt_lt _ _
    have hfaults : ∀ {fault}, m.Faults fault ↔ Obstacle m word fault :=
      faults_iff_obstacle hscreen hfetch hword
    refine ⟨?_, ?_, ?_, ?_, ?_⟩
    · intro operand place
      rw [hfaults, Obstacle.unknownOpcode_iff]
    · rw [hfaults, Obstacle.stackUnderflow_iff]
    · intro depth
      rw [hfaults, Obstacle.stackOverflow_iff]
    · simp only [hfaults, Obstacle.outOfBounds_iff]
      constructor
      · rintro ⟨place, size, hwants, houtside, -⟩
        exact ⟨hwants, houtside⟩
      · rintro ⟨hwants, houtside⟩
        exact ⟨_, _, hwants, houtside, rfl⟩
    · intro hassigned hcall hroom hreach
      refine step_ends hscreen ?_ hfetch hword
      intro fault hobstacle
      cases hobstacle with
      | unassigned unassigned => exact hassigned unassigned
      | noCall returns empty => exact hcall ⟨returns, empty⟩
      | noRoom calls full => exact hroom ⟨calls, full⟩
      | outOfReach houtside => exact hreach ⟨houtside.1, houtside.2.1⟩

/-- A machine that is to draw a number of rows from the address behind its last byte. -/
def drawingAtTheEnd (rows : UInt8) : Machine :=
  { Machine.poweredOn ⟨#[0xD0, rows]⟩ 16 none (.cycle []) with
    cpu := { Cpu.initial with pc := 0, index := 2 } }

/-- No row at all can be drawn from there, but one cannot. -/
theorem drawingAtTheEnd_outcomes :
    (∃ after, step.run (drawingAtTheEnd 0) = .ok 0xD000 after) ∧
      ∃ place size, (drawingAtTheEnd 1).Faults (.outOfBounds place size) := by
  have hscreen : ∀ rows, (drawingAtTheEnd rows).screen.Complete := fun rows =>
    Screen.coherent_standard.complete
  obtain ⟨-, hnone⟩ := step_classified (hscreen 0)
  obtain ⟨-, hone⟩ := step_classified (hscreen 1)
  obtain ⟨-, -, -, -, hends⟩ := hnone (by decide) (by decide)
  obtain ⟨-, -, -, hfaults, -⟩ := hone (by decide) (by decide)
  exact ⟨hends (by decide) (by decide) (by decide) (by decide), hfaults.2 (by decide)⟩

end ChipEight.Machine
