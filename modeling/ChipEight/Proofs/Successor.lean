/-
Where a program goes on.

The program counter has moved over an instruction before the instruction is carried out, and most
instructions leave it there.  A jump, a call and a return overwrite it, and a skip moves it once
more.  `Skips` lists the words that skip and `Succeeds` says of every word where the program goes on
after it, so that nothing about an instruction has to be known but its digits.

The instructions that skip come in pairs.  What makes one of a pair skip makes the other go on, and
but for the program counter and the operand the two leave the same machine: a skip does nothing
else.
-/
import ChipEight.Proofs.Completion

namespace ChipEight.Machine

open Instruction

variable {m after : Machine} {instruction : Instruction} {word : Nat}

/-- The words that skip the one behind them. -/
inductive Skips (m : Machine) : Nat → Prop
  | equalsByte {x : Register} {kk : UInt8} (same : m.cpu.reg x = kk) : Skips m (ofByte 0x3 x kk)
  | differsFromByte {x : Register} {kk : UInt8} (differ : m.cpu.reg x ≠ kk) :
      Skips m (ofByte 0x4 x kk)
  | equals {x y : Register} {n : Fin 16} (same : m.cpu.reg x = m.cpu.reg y) :
      Skips m (ofRegisters 0x5 x y n)
  | differs {x y : Register} {n : Fin 16} (differ : m.cpu.reg x ≠ m.cpu.reg y) :
      Skips m (ofRegisters 0x9 x y n)
  | keyDown {x : Register} (key : (m.cpu.reg x).toNat < 16)
      (pressed : m.keypad.isPressed (m.cpu.reg x).toNat = true) : Skips m (ofByte 0xE x 0x9E)
  | keyUp {x : Register}
      (released : m.keypad.isPressed (m.cpu.reg x).toNat = false) : Skips m (ofByte 0xE x 0xA1)
  /-- A number that is not a key's is up. -/
  | noKey {x : Register} (noKey : 16 ≤ (m.cpu.reg x).toNat) : Skips m (ofByte 0xE x 0xA1)

/-- Where the program goes on after a word at the program counter. -/
structure Succeeds (m : Machine) (word : Nat) (after : Machine) : Prop where
  jump : ∀ nnn, word = ofAddress 0x1 nnn ∨ word = ofAddress 0x2 nnn → after.cpu.pc = (nnn : Nat)
  jumpAhead : ∀ nnn, word = ofAddress 0xB nnn →
    after.cpu.pc = (m.cpu.reg .base).toNat + (nnn : Nat)
  ret : word = 0x00EE → m.cpu.stack = after.cpu.pc :: after.cpu.stack
  skip : Skips m word → after.cpu.pc = m.cpu.pc + 4
  goOn : word / 0x1000 ∉ [0x1, 0x2, 0xB] → word ≠ 0x00EE → ¬ Skips m word →
    after.cpu.pc = m.cpu.pc + 2

/-! ### The program counter -/

theorem Completes.pc_jump {nnn : ShortAddress} (h : Completes m (.jump nnn) after) :
    after.cpu.pc = (nnn : Nat) := by
  cases h
  rfl

theorem Completes.pc_call {nnn : ShortAddress} (h : Completes m (.call nnn) after) :
    after.cpu.pc = (nnn : Nat) := by
  cases h
  rfl

theorem Completes.pc_jumpAhead {nnn : ShortAddress} (h : Completes m (.jumpAhead nnn) after) :
    after.cpu.pc = (m.cpu.reg .base).toNat + (nnn : Nat) := by
  cases h
  rfl

theorem Completes.stack_ret (h : Completes m .ret after) :
    m.cpu.stack = after.cpu.pc :: after.cpu.stack := by
  cases h with
  | ret calls => exact calls

theorem Completes.pc_skip {condition : Condition} (h : Completes m (.skip condition) after)
    (hholds : m.holds condition = true) : after.cpu.pc = m.cpu.pc + Cpu.instructionSize := by
  cases h with
  | skip holds => rfl
  | goOn fails => simp [fails] at hholds

/-- Whatever neither jumps nor returns nor skips leaves the program counter where it is. -/
theorem Completes.pc_goOn (h : Completes m instruction after)
    (hgroup : instruction.group ∉ [0x1, 0x2, 0xB]) (hret : instruction ≠ .ret)
    (hskip : ∀ condition, instruction = .skip condition → m.holds condition = false) :
    after.cpu.pc = m.cpu.pc := by
  cases h with
  | ret calls => exact absurd rfl hret
  | jump | call | jumpAhead => simp [group] at hgroup
  | skip holds =>
      rw [hskip _ rfl] at holds
      cases holds
  | compute => rw [onCpu_cpu, Cpu.compute_eq]
  | sound nonzero =>
      rw [onSpeaker_cpu]
      rfl
  | restore read => rw [onCpu_cpu, Cpu.setFirstRegs]
  | _ => rfl

/-! ### The words that skip -/

theorem holds_keyDown {x : Register} :
    m.holds (.keyDown x) = true ↔
      (m.cpu.reg x).toNat < 16 ∧ m.keypad.isPressed (m.cpu.reg x).toNat = true := by
  show holds.keyDown m x = true ↔ _
  rw [holds.keyDown, Bool.and_eq_true, decide_eq_true_iff, UInt8.lt_iff_toNat_lt]
  rfl

theorem holds_keyUp {x : Register} : m.holds (.keyUp x) = !m.holds (.keyDown x) := rfl

theorem holds_keyUp_iff {x : Register} :
    m.holds (.keyUp x) = true ↔
      16 ≤ (m.cpu.reg x).toNat ∨ m.keypad.isPressed (m.cpu.reg x).toNat = false := by
  rw [holds_keyUp, Bool.not_eq_true', ← Bool.not_eq_true, holds_keyDown]
  simp only [not_and_or, Nat.not_lt, Bool.not_eq_true]

/-- The words that skip are those whose condition holds. -/
theorem skips_iff :
    Skips m word ↔ ∃ condition, ofWord? word = some (.skip condition) ∧ m.holds condition = true := by
  simp only [ofWord?_eq_skip_iff]
  constructor
  · intro h
    cases h with
    | equalsByte same => exact ⟨.equalsByte _ _, rfl, decide_eq_true same⟩
    | differsFromByte differ => exact ⟨.differsFromByte _ _, rfl, decide_eq_true differ⟩
    | equals same => exact ⟨.equals _ _, ⟨_, rfl⟩, decide_eq_true same⟩
    | differs differ => exact ⟨.differs _ _, ⟨_, rfl⟩, decide_eq_true differ⟩
    | keyDown key pressed => exact ⟨.keyDown _, rfl, holds_keyDown.2 ⟨key, pressed⟩⟩
    | keyUp released => exact ⟨.keyUp _, rfl, holds_keyUp_iff.2 (Or.inr released)⟩
    | noKey noKey => exact ⟨.keyUp _, rfl, holds_keyUp_iff.2 (Or.inl noKey)⟩
  · rintro ⟨condition, hword, hholds⟩
    cases condition with
    | equalsByte x kk =>
        cases hword
        exact .equalsByte (of_decide_eq_true hholds)
    | differsFromByte x kk =>
        cases hword
        exact .differsFromByte (of_decide_eq_true hholds)
    | equals x y =>
        obtain ⟨n, rfl⟩ := hword
        exact .equals (of_decide_eq_true hholds)
    | differs x y =>
        obtain ⟨n, rfl⟩ := hword
        exact .differs (of_decide_eq_true hholds)
    | keyDown x =>
        cases hword
        obtain ⟨hkey, hpressed⟩ := holds_keyDown.1 hholds
        exact .keyDown hkey hpressed
    | keyUp x =>
        cases hword
        rcases holds_keyUp_iff.1 hholds with hnoKey | hreleased
        · exact .noKey hnoKey
        · exact .keyUp hreleased

theorem skips_iff_holds {condition : Condition} (hword : SkipsUnder word condition) :
    Skips m word ↔ m.holds condition = true := by
  have hdecode := ofWord?_eq_skip_iff.2 hword
  rw [skips_iff]
  constructor
  · rintro ⟨other, hother, hholds⟩
    cases hother.symm.trans hdecode
    exact hholds
  · intro hholds
    exact ⟨condition, hdecode, hholds⟩

/-! ### Where the program goes on -/

theorem holds_beginning (condition : Condition) :
    (m.beginning word).holds condition = m.holds condition :=
  holds_congr rfl rfl condition

theorem Completes.succeeds (hdecode : ofWord? word = some instruction)
    (h : Completes (m.beginning word) instruction after) : Succeeds m word after where
  jump := by
    rintro nnn (rfl | rfl)
    · cases (ofWord?_ofAddress_jump nnn).symm.trans hdecode
      exact h.pc_jump
    · cases (ofWord?_ofAddress_call nnn).symm.trans hdecode
      exact h.pc_call
  jumpAhead := by
    rintro nnn rfl
    cases (ofWord?_ofAddress_jumpAhead nnn).symm.trans hdecode
    exact h.pc_jumpAhead
  ret := by
    intro hword
    cases (ofWord?_eq_ret_iff.2 hword).symm.trans hdecode
    exact h.stack_ret
  skip := by
    intro hskips
    obtain ⟨condition, hskip, hholds⟩ := skips_iff.1 hskips
    cases hskip.symm.trans hdecode
    rw [h.pc_skip ((holds_beginning condition).trans hholds)]
    exact Int.add_assoc m.cpu.pc 2 2
  goOn := by
    intro hgroup hret hskips
    rw [ofWord?_group hdecode] at hgroup
    refine h.pc_goOn hgroup ?_ ?_
    · rintro rfl
      exact hret (ofWord?_eq_ret_iff.1 hdecode)
    · rintro condition rfl
      rw [holds_beginning, ← Bool.not_eq_true]
      exact fun hholds => hskips (skips_iff.2 ⟨condition, hdecode, hholds⟩)

/-- A step that does not fault comes to its end, and its answer is the word it fetched. -/
theorem step_completes (hscreen : m.screen.Complete) (hfaults : ∀ fault, ¬ m.Faults fault) :
    ∃ word instruction after, m.memory.readWord m.cpu.pc = .ok word ∧ step.run m = .ok word after ∧
      ofWord? word = some instruction ∧ Completes (m.beginning word) instruction after := by
  by_cases hinside : m.memory.Inside m.cpu.pc 2
  · have hfetch : m.memory.readWord m.cpu.pc = .ok (m.memory.wordAt m.cpu.pc) := by
      rw [Memory.readWord_eq, if_pos hinside]
    have hword := Memory.wordAt_lt m.memory m.cpu.pc
    have hclear : ∀ fault, ¬ Obstacle m (m.memory.wordAt m.cpu.pc) fault := by
      intro fault hobstacle
      exact hfaults fault ((faults_iff_obstacle hscreen hfetch hword).2 hobstacle)
    obtain ⟨after, hrun⟩ := step_ends hscreen hclear hfetch hword
    obtain ⟨instruction, hnext, hcompletes⟩ := step_ok hrun
    simp only [next?, hfetch, decode_word hword] at hnext
    exact ⟨_, instruction, after, hfetch, hrun, hnext, hcompletes⟩
  · exact absurd ⟨m, (fetch_fault_iff.2 hinside).2⟩ (hfaults _)

/-! ### Instructions in pairs -/

/-- Whether one of two operands skips and the other does not.  Both come to their end, and the
machines that they leave differ in nothing but the program counter and the operand. -/
def Opposed (m : Machine) (operand operand' : Nat) : Prop :=
  ∃ after after' : Machine,
    (execute operand).run m = .ok () after ∧ (execute operand').run m = .ok () after' ∧
    (Skips m operand ∧ after.cpu.pc = m.cpu.pc + 2 ∧
        ¬ Skips m operand' ∧ after'.cpu.pc = m.cpu.pc ∨
      ¬ Skips m operand ∧ after.cpu.pc = m.cpu.pc ∧
        Skips m operand' ∧ after'.cpu.pc = m.cpu.pc + 2) ∧
    after' =
      { after with
        cpu := { after.cpu with pc := after'.cpu.pc, operand := after'.cpu.operand } }

theorem run_execute_skip {condition : Condition}
    (hword : SkipsUnder word condition) (hsmall : word < 0x10000) :
    (execute word).run m =
      .ok () (m.onCpu fun c =>
        { c with
          pc := if m.holds condition then c.pc + Cpu.instructionSize else c.pc
          operand := word }) := by
  have hholds : (m.onCpu ({ · with operand := word })).holds condition = m.holds condition :=
    holds_congr rfl rfl condition
  simp only [run_execute, decode_word hsmall, ofWord?_eq_skip_iff.2 hword, perform,
    EStateM.run_bind, EStateM.run_get, hholds]
  split <;> rfl

/-- Two operands are opposed if the condition of one is that the other's does not hold. -/
theorem opposed {condition condition' : Condition} {word' : Nat}
    (hnot : m.holds condition' = !m.holds condition)
    (hword : SkipsUnder word condition) (hsmall : word < 0x10000)
    (hword' : SkipsUnder word' condition') (hsmall' : word' < 0x10000) : m.Opposed word word' := by
  refine ⟨_, _, run_execute_skip hword hsmall, run_execute_skip hword' hsmall', ?_, rfl⟩
  rw [skips_iff_holds hword, skips_iff_holds hword', hnot]
  cases m.holds condition with
  | true => exact Or.inl ⟨rfl, rfl, Bool.false_ne_true, rfl⟩
  | false => exact Or.inr ⟨Bool.false_ne_true, rfl, rfl, rfl⟩

/-- **Where a program goes on.**  A step that does not fault comes to its end, and the digits of the
word say where the program goes on: at the address in the word, or that address and `V0`, or where
the last call came from; else behind the next instruction if the word skips, and at the next
instruction if it does not.  Of two instructions that make a pair exactly one skips, and nothing
else tells them apart. -/
theorem program_goes_on (m : Machine) :
    (m.screen.Complete → (∀ fault, ¬ m.Faults fault) →
      ∃ word after, m.memory.readWord m.cpu.pc = .ok word ∧ step.run m = .ok word after ∧
        m.Succeeds word after) ∧
    (∀ (x : Register) (kk : UInt8), m.Opposed (ofByte 0x3 x kk) (ofByte 0x4 x kk)) ∧
    (∀ (x y : Register) (n n' : Fin 16),
      m.Opposed (ofRegisters 0x5 x y n) (ofRegisters 0x9 x y n')) ∧
    ∀ x : Register, m.Opposed (ofByte 0xE x 0x9E) (ofByte 0xE x 0xA1) := by
  refine ⟨?_, ?_, ?_, ?_⟩
  · intro hscreen hfaults
    obtain ⟨word, instruction, after, hfetch, hrun, hdecode, hcompletes⟩ :=
      step_completes hscreen hfaults
    exact ⟨word, after, hfetch, hrun, hcompletes.succeeds hdecode⟩
  · intro x kk
    have hnot : m.holds (.differsFromByte x kk) = !m.holds (.equalsByte x kk) := decide_not
    exact opposed hnot rfl (ofByte_lt x kk (by decide)) rfl (ofByte_lt x kk (by decide))
  · intro x y n n'
    have hnot : m.holds (.differs x y) = !m.holds (.equals x y) := decide_not
    exact opposed hnot ⟨n, rfl⟩ (ofRegisters_lt x y n (by decide)) ⟨n', rfl⟩
      (ofRegisters_lt x y n' (by decide))
  · intro x
    exact opposed holds_keyUp rfl (ofByte_lt x _ (by decide)) rfl (ofByte_lt x _ (by decide))

/-- A machine that is to skip if the key is up whose number is sixteen. -/
def sixteenUp : Machine :=
  { Machine.poweredOn ⟨#[0xE0, 0xA1]⟩ 16 none (.cycle []) with
    cpu := { Cpu.initial.setReg .base 16 with pc := 0 } }

/-- There is no such key, and so the machine skips. -/
theorem sixteenUp_skips :
    (∃ after, step.run sixteenUp = .ok 0xE0A1 after ∧ after.cpu.pc = 4) ∧
      sixteenUp.Opposed 0xE09E 0xE0A1 := by
  have hscreen : sixteenUp.screen.Complete := Screen.coherent_standard.complete
  have hfetch : sixteenUp.memory.readWord sixteenUp.cpu.pc = .ok 0xE0A1 := rfl
  have hfaults : ∀ fault, ¬ sixteenUp.Faults fault := by
    intro fault
    rw [faults_iff_obstacle hscreen hfetch (by decide)]
    intro hobstacle
    cases hobstacle with
    | unassigned unassigned => exact absurd unassigned (by decide)
    | noCall returns empty => exact absurd returns (by decide)
    | noRoom calls full => exact absurd calls (by decide)
    | outOfReach outside => exact absurd outside.1 (by decide)
  have hskips : sixteenUp.Skips (ofByte 0xE .base 0xA1) := .noKey (by decide)
  obtain ⟨hstep, -, -, hkeys⟩ := program_goes_on sixteenUp
  obtain ⟨word, after, hword, hrun, hsucceeds⟩ := hstep hscreen hfaults
  cases hfetch.symm.trans hword
  exact ⟨⟨after, hrun, hsucceeds.skip hskips⟩, hkeys .base⟩

end ChipEight.Machine
