/-
Calls and the returns that belong to them.

An instruction does one of three things to the stack: most leave it alone, a call puts the address
behind itself on top, and a return goes to the address on top and takes it off.  So what was on the
stack at a call stays where it is as long as the stack is deeper than it was then, and on it lies
the address behind the call, which no step can get at without bringing the stack back to its depth
at the call.  The step that does so is the return, and it goes to that address.

Nothing is said about the instructions in between.  They may call and return themselves, wait for
keys and write over the program.
-/
import ChipEight.Proofs.Completion

namespace ChipEight.Machine

variable {m after next : Machine} {instruction : Instruction}

/-! ### One step -/

/-- What a completed instruction does to the stack. -/
theorem Completes.stack (h : Completes m instruction after) :
    after.cpu.stack = m.cpu.stack ∨ after.cpu.stack = m.cpu.pc :: m.cpu.stack ∨
      m.cpu.stack = after.cpu.pc :: after.cpu.stack := by
  cases h with
  | ret calls => exact Or.inr (Or.inr calls)
  | call room => exact Or.inr (Or.inl rfl)
  | compute =>
      refine Or.inl ?_
      rw [onCpu_cpu, Cpu.compute_eq]
  | sound nonzero =>
      refine Or.inl ?_
      rw [onSpeaker_cpu]
      rfl
  | restore read =>
      refine Or.inl ?_
      rw [onCpu_cpu, Cpu.setFirstRegs]
  | _ => exact Or.inl rfl

/-- A step comes to its end and leads to a machine: to the one that it leaves, or to what became of
that one before the next step.  Keys may be latched in between, timers may count and a wait may
end, but nothing moves the program counter or touches the stack. -/
def LeadsTo (m next : Machine) : Prop :=
  ∃ operand after, step.run m = .ok operand after ∧
    next.cpu.pc = after.cpu.pc ∧ next.cpu.stack = after.cpu.stack

theorem leadsTo_of_step {operand : Nat} (h : step.run m = .ok operand after) : m.LeadsTo after :=
  ⟨operand, after, h, rfl, rfl⟩

theorem LeadsTo.resolveKey (h : m.LeadsTo next) (key : Int) : m.LeadsTo (next.resolveKey key) := by
  obtain ⟨operand, after, hstep, hpc, hstack⟩ := h
  have hsame : (next.resolveKey key).cpu.pc = next.cpu.pc ∧
      (next.resolveKey key).cpu.stack = next.cpu.stack := by
    simp only [Machine.resolveKey, onCpu_cpu, Cpu.resolveKey]
    split <;> exact ⟨rfl, rfl⟩
  exact ⟨operand, after, hstep, hsame.1.trans hpc, hsame.2.trans hstack⟩

/-- The three things that become of the stack. -/
theorem LeadsTo.stack (h : m.LeadsTo next) :
    next.cpu.stack = m.cpu.stack ∨ next.cpu.stack = (m.cpu.pc + 2) :: m.cpu.stack ∨
      m.cpu.stack = next.cpu.pc :: next.cpu.stack := by
  obtain ⟨operand, after, hstep, hpc, hstack⟩ := h
  obtain ⟨instruction, -, hcompletes⟩ := step_ok hstep
  rw [hpc, hstack]
  exact hcompletes.stack

/-- A call puts the address behind itself on the stack. -/
theorem LeadsTo.stack_of_call (h : m.LeadsTo next) {nnn : ShortAddress}
    (hcall : m.next? = some (.call nnn)) :
    next.cpu.stack = (m.cpu.pc + 2) :: m.cpu.stack := by
  obtain ⟨operand, after, hstep, -, hstack⟩ := h
  obtain ⟨instruction, hnext, hcompletes⟩ := step_ok hstep
  rw [hcall, Option.some_inj] at hnext
  subst hnext
  rw [hstack]
  cases hcompletes
  rfl

/-- An address that lies on the old part of the stack stays there, unless the stack falls back to
that part; then the step went to the address. -/
theorem LeadsTo.keeps_below (h : m.LeadsTo next) {back : Int} {old : List Int}
    (hbelow : back :: old <:+ m.cpu.stack) :
    back :: old <:+ next.cpu.stack ∨ (next.cpu.pc = back ∧ next.cpu.stack = old) := by
  rcases h.stack with hsame | hcall | hret
  · exact Or.inl (by rw [hsame]; exact hbelow)
  · exact Or.inl (by rw [hcall]; exact hbelow.trans (List.suffix_cons _ _))
  · rw [hret, List.suffix_cons_iff] at hbelow
    rcases hbelow with htop | hdeeper
    · obtain ⟨hback, hold⟩ := List.cons.inj htop
      exact Or.inr ⟨hback.symm, hold.symm⟩
    · exact Or.inl hdeeper

/-! ### From a call to its return -/

section

variable {states : Nat → Machine} {n : Nat} {nnn : ShortAddress}

/-- While the stack is deeper than at the call, it holds the address behind the call, on what it
held then. -/
theorem below_during_call (hsteps : ∀ i < n, (states i).LeadsTo (states (i + 1)))
    (hcall : (states 0).next? = some (.call nnn))
    (hdeeper : ∀ i, 0 < i → i < n → (states 0).cpu.stack.length < (states i).cpu.stack.length) :
    ∀ i, 0 < i → i < n →
      ((states 0).cpu.pc + 2) :: (states 0).cpu.stack <:+ (states i).cpu.stack := by
  intro i hpos hlt
  -- Induction on the steps after the call.
  obtain ⟨later, rfl⟩ : ∃ later, i = later + 1 := ⟨i - 1, by omega⟩
  induction later with
  | zero =>
      exact ⟨[], ((hsteps 0 (by omega)).stack_of_call hcall).symm⟩
  | succ later ih =>
      have hbelow := ih (by omega) (by omega)
      rcases (hsteps (later + 1) (by omega)).keeps_below hbelow with hkept | ⟨-, hfell⟩
      · exact hkept
      · have hdepth := hdeeper (later + 1 + 1) (by omega) hlt
        rw [hfell] at hdepth
        exact absurd hdepth (Nat.lt_irrefl _)

/-- **A call comes back behind itself.**  Let a row of steps begin with a call, let the stack be
deeper than before the call after each of them but the last, and let the last bring it back to its
depth before the call.  Then the last goes to the address behind the call and leaves the stack as
it was before the call; and after every one of the steps that stack is the bottom of the stack. -/
theorem call_returns (hsteps : ∀ i < n, (states i).LeadsTo (states (i + 1))) (hsome : 0 < n)
    (hcall : (states 0).next? = some (.call nnn))
    (hdeeper : ∀ i, 0 < i → i < n → (states 0).cpu.stack.length < (states i).cpu.stack.length)
    (hback : (states n).cpu.stack.length = (states 0).cpu.stack.length) :
    (states n).cpu.pc = (states 0).cpu.pc + 2 ∧ (states n).cpu.stack = (states 0).cpu.stack ∧
      ∀ i ≤ n, (states 0).cpu.stack <:+ (states i).cpu.stack := by
  have hbelow := below_during_call hsteps hcall hdeeper
  have hlonger : ¬ ((states 0).cpu.pc + 2) :: (states 0).cpu.stack <:+ (states n).cpu.stack := by
    intro hsuffix
    have hlength := hsuffix.length_le
    rw [List.length_cons, hback] at hlength
    omega
  -- The call is not the last step, since it makes the stack deeper.
  obtain ⟨last, rfl⟩ : ∃ last, n = last + 1 := ⟨n - 1, by omega⟩
  have hlast : 0 < last := by
    by_contra hzero
    have hfirst : last = 0 := by omega
    subst hfirst
    exact hlonger ⟨[], ((hsteps 0 (by omega)).stack_of_call hcall).symm⟩
  obtain ⟨hpc, hstack⟩ := ((hsteps last (by omega)).keeps_below
    (hbelow last hlast (by omega))).resolve_left hlonger
  refine ⟨hpc, hstack, ?_⟩
  intro i hi
  rcases Nat.eq_zero_or_pos i with rfl | hpos
  · exact List.suffix_refl _
  · rcases Nat.lt_or_eq_of_le hi with hlt | rfl
    · exact (List.suffix_cons _ _).trans (hbelow i hpos hlt)
    · exact ⟨[], hstack.symm⟩

end

/-- A program that calls a routine at address four, which waits for a key and returns. -/
def routine : Machine :=
  { Machine.poweredOn ⟨#[0x20, 0x04, 0, 0, 0xF0, 0x0A, 0x00, 0xEE]⟩ 16 none (.cycle []) with
    cpu := { Cpu.initial with pc := 0, stack := [0x300] } }

/-- The machine after a step. -/
def stepped (m : Machine) : Machine := left (step.run m)

/-- That program up to its return, with key three given to it while it waits. -/
def routineStates : Nat → Machine
  | 0 => routine
  | 1 => routine.stepped
  | 2 => routine.stepped.stepped.resolveKey 3
  | _ => (routine.stepped.stepped.resolveKey 3).stepped

set_option maxRecDepth 4000 in
/-- The routine returns behind its call. -/
theorem routine_returns :
    (routineStates 3).cpu.pc = 2 ∧ (routineStates 3).cpu.stack = [0x300] ∧
      (routineStates 2).cpu.stack = [2, 0x300] := by
  have hsteps : ∀ i < 3, (routineStates i).LeadsTo (routineStates (i + 1)) := by
    intro i hi
    match i, hi with
    | 0, _ => exact leadsTo_of_step (rfl : step.run routine = .ok 0x2004 (routineStates 1))
    | 1, _ => exact (leadsTo_of_step (rfl : step.run (routineStates 1) = .ok 0xF00A _)).resolveKey 3
    | 2, _ => exact leadsTo_of_step (rfl : step.run (routineStates 2) = .ok 0x00EE _)
  have hcall : (routineStates 0).next? = some (.call 4) := rfl
  have hdeeper : ∀ i, 0 < i → i < 3 →
      (routineStates 0).cpu.stack.length < (routineStates i).cpu.stack.length := by
    intro i hpos hlt
    match i, hpos, hlt with
    | 1, _, _ => decide
    | 2, _, _ => decide
  obtain ⟨hpc, hstack, -⟩ := call_returns hsteps (by decide) hcall hdeeper rfl
  exact ⟨hpc, hstack, rfl⟩

end ChipEight.Machine
