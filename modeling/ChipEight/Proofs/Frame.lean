/-
What a frame can be.

A console runs a frame by a loop over steps, and the loop ends early in two ways: an
instruction waits for a key, or one ends in a fault.  `Executes` follows the loop through
the instructions that neither waited nor failed, so that whatever ended a frame is a single
step at a machine that such a row of instructions leads to.

`Frame` lists the outcomes, each with the console it leaves.  There is none for a crash:
a console whose machine is well-formed has no crash to report, and `tick_frame` says so.
What holds of every frame is proved by cases on this list, without a look at the loop.
-/
import ChipEight.Console
import ChipEight.Proofs.Completion
import ChipEight.Proofs.WellFormed

namespace ChipEight

open Machine Machine.Action

variable {size depth : Int} {m after : Machine}

/-! ### The loop over steps -/

/-- So many instructions come to their end one after the other, with the keys latched after each,
and none of them waits for a key. -/
inductive Machine.Executes : Nat → Machine → Machine → Prop where
  | none (m : Machine) : Executes 0 m m
  | more {n operand : Nat} {m between after : Machine} (steps : step.run m = .ok operand between)
      (runs : between.cpu.running = true) (rest : Executes n between.latch after) :
      Executes (n + 1) m after

theorem Machine.Executes.wellFormed {n : Nat} (h : Executes n m after)
    (hm : m.WellFormed size depth) : after.WellFormed size depth := by
  induction h with
  | none m => exact hm
  | more steps runs rest ih => exact ih (step_wellFormed.ok _ hm _ _ steps).latch

/-- What drawing keeps of the picture, any number of instructions keeps. -/
theorem Machine.Executes.screen {P : Screen → Prop} (kept : Screen.KeptByDrawing P) {n : Nat}
    (h : Executes n m after) (hscreen : P m.screen) : P after.screen := by
  induction h with
  | none m => exact hscreen
  | @more n operand m between after steps runs rest ih =>
      have hbetween : P between.screen := step_screen kept steps hscreen
      exact ih hbetween

theorem Machine.Executes.running {n : Nat} (h : Executes n m after)
    (hruns : m.cpu.running = true) : after.cpu.running = true := by
  induction h with
  | none m => exact hruns
  | more steps runs rest ih => exact ih runs

namespace Console

theorem run_runSteps_succ (n : Nat) (m : Machine) :
    (runSteps (n + 1)).run m =
      match step.run m with
      | .ok _ between =>
        if between.cpu.running then (runSteps n).run between.latch else .ok () between.latch
      | .error stop after => .error stop after := by
  simp only [runSteps, EStateM.run_bind]
  cases step.run m with
  | error stop after => rfl
  | ok operand between =>
      simp only [EStateM.run_modify, EStateM.run_get]
      show (if between.cpu.running = true then runSteps n else pure ()).run between.latch = _
      split <;> rfl

/-- A loop goes on after a cut unless it stopped, or waits, before it. -/
theorem run_runSteps_add (n k : Nat) :
    ∀ {m : Machine}, m.cpu.running = true →
      (runSteps (n + k)).run m =
        match (runSteps n).run m with
        | .ok _ after =>
          if after.cpu.running then (runSteps k).run after else .ok () after
        | .error stop after => .error stop after := by
  induction n with
  | zero =>
      intro m hruns
      have hnothing : (runSteps 0).run m = .ok () m := rfl
      rw [Nat.zero_add, hnothing]
      simp only [if_pos hruns]
  | succ n ih =>
      intro m _
      rw [Nat.add_right_comm, run_runSteps_succ, run_runSteps_succ]
      cases hstep : step.run m with
      | error stop stopped => rfl
      | ok operand between =>
          by_cases hgoes : between.cpu.running = true
          · simp only [if_pos hgoes]
            exact ih (m := between.latch) hgoes
          · have hwaits : ¬ between.latch.cpu.running = true := hgoes
            simp only [if_neg hgoes, if_neg hwaits]

/-- The machine that a loop over so many steps leaves, if it comes to its end. -/
def ended? (n : Nat) (m : Machine) : Option Machine :=
  match (runSteps n).run m with
  | .ok _ after => some after
  | .error _ _ => none

theorem ended?_eq_some {n : Nat} : ended? n m = some after ↔ (runSteps n).run m = .ok () after := by
  rw [ended?]
  cases (runSteps n).run m <;> simp

theorem runSteps_wellFormed (n : Nat) :
    Ensures (Machine.WellFormed size depth) (runSteps n) fun _ =>
      Machine.WellFormed size depth := by
  induction n with
  | zero => exact ensures_pure fun m hm => hm
  | succ n ih =>
      refine step_wellFormed.bind fun operand => ?_
      refine (ensures_modify fun m hm => hm.latch).bind fun _ => ensures_get.bind fun now => ?_
      split
      · exact ih.weaken fun m hm => hm.1
      · exact ensures_pure fun m hm => hm.1

/-- A loop that comes to its end begins with a step that does, and goes on unless that waits. -/
theorem runSteps_succ_ok {n : Nat} (h : (runSteps (n + 1)).run m = .ok () after) :
    ∃ operand between, step.run m = .ok operand between ∧
      (between.cpu.running = true → (runSteps n).run between.latch = .ok () after) ∧
      (between.cpu.running = false → after = between.latch) := by
  rw [run_runSteps_succ] at h
  cases hstep : step.run m with
  | error stop stopped =>
      rw [hstep] at h
      cases h
  | ok operand between =>
      simp only [hstep] at h
      refine ⟨operand, between, rfl, ?_, ?_⟩
      · intro hruns
        rwa [if_pos hruns] at h
      · intro hwaits
        rw [if_neg (by simp [hwaits])] at h
        cases h
        rfl

/-- The loop comes to its end with the last of its instructions, or with the first that waits. -/
theorem runSteps_ok {n : Nat} :
    ∀ {m : Machine}, (runSteps n).run m = .ok () after →
      Executes n m after ∨
        ∃ executed before operand between, executed < n ∧ Executes executed m before ∧
          step.run before = .ok operand between ∧ between.cpu.running = false ∧
          after = between.latch := by
  induction n with
  | zero =>
      intro m h
      cases h
      exact Or.inl (.none _)
  | succ n ih =>
      intro m h
      obtain ⟨operand, between, hstep, hgoes, hwaits⟩ := runSteps_succ_ok h
      by_cases hruns : between.cpu.running = true
      · rcases ih (hgoes hruns) with hall | ⟨executed, before, rest, last, hlt, hexecutes, hlast⟩
        · exact Or.inl (.more hstep hruns hall)
        · exact Or.inr ⟨executed + 1, before, rest, last, by omega,
            .more hstep hruns hexecutes, hlast⟩
      · have hstops : between.cpu.running = false := by simpa using hruns
        exact Or.inr ⟨0, m, operand, between, by omega, .none m, hstep, hstops, hwaits hstops⟩

/-- An instruction that waits ends the loop. -/
theorem runSteps_of_waits {executed operand : Nat} {before left : Machine}
    (h : Executes executed m before) (hstep : step.run before = .ok operand left)
    (hwaits : left.cpu.running = false) :
    ∀ {n : Nat}, executed < n → (runSteps n).run m = .ok () left.latch := by
  induction h with
  | none m =>
      intro n hroom
      obtain ⟨rest, rfl⟩ : ∃ rest, n = rest + 1 := ⟨n - 1, by omega⟩
      rw [run_runSteps_succ, hstep]
      simp [hwaits]
  | more steps runs rest ih =>
      intro n hroom
      obtain ⟨rest, rfl⟩ : ∃ rest, n = rest + 1 := ⟨n - 1, by omega⟩
      rw [run_runSteps_succ, steps]
      simp only [runs, if_true]
      exact ih hstep (by omega)

/-- An instruction that stops short ends the loop. -/
theorem runSteps_of_stop {executed : Nat} {before left : Machine} {stop : Stop}
    (h : Executes executed m before) (hstep : step.run before = .error stop left) :
    ∀ {n : Nat}, executed < n → (runSteps n).run m = .error stop left := by
  induction h with
  | none m =>
      intro n hroom
      obtain ⟨rest, rfl⟩ : ∃ rest, n = rest + 1 := ⟨n - 1, by omega⟩
      rw [run_runSteps_succ, hstep]
  | more steps runs rest ih =>
      intro n hroom
      obtain ⟨rest, rfl⟩ : ∃ rest, n = rest + 1 := ⟨n - 1, by omega⟩
      rw [run_runSteps_succ, steps]
      simp only [runs, if_true]
      exact ih hstep (by omega)

/-- What drawing keeps of the picture, the loop keeps. -/
theorem runSteps_screen {P : Screen → Prop} (kept : Screen.KeptByDrawing P) {n : Nat}
    (h : (runSteps n).run m = .ok () after) (hscreen : P m.screen) : P after.screen := by
  rcases runSteps_ok h with hall | ⟨executed, before, operand, between, -, hexecutes, hstep, -, rfl⟩
  · exact hall.screen kept hscreen
  · have hbetween : P between.screen := step_screen kept hstep (hexecutes.screen kept hscreen)
    exact hbetween

/-- A fault in the loop is the fault of one step. -/
theorem runSteps_fault {n : Nat} {fault : Fault} :
    ∀ {m : Machine}, (runSteps n).run m = .error (.fault fault) after →
      ∃ executed before, executed < n ∧ Executes executed m before ∧
        step.run before = .error (.fault fault) after := by
  induction n with
  | zero => intro m h; cases h
  | succ n ih =>
      intro m h
      rw [run_runSteps_succ] at h
      cases hstep : step.run m with
      | error stop stopped =>
          rw [hstep] at h
          cases h
          exact ⟨0, m, by omega, .none m, hstep⟩
      | ok operand between =>
          simp only [hstep] at h
          split at h
          · rename_i hruns
            obtain ⟨executed, before, hlt, hexecutes, hfault⟩ := ih h
            exact ⟨executed + 1, before, by omega, .more hstep hruns hexecutes, hfault⟩
          · cases h

/-! ### The outcomes -/

/-- The outcomes of a tick, with the console it leaves and its answer. -/
inductive Frame (c : Console) : Console → Bool → Prop where
  /-- An inactive console does nothing. -/
  | idle (inactive : c.active = false) : Frame c c true
  /-- The processor waits for a key. -/
  | waiting {x : Register} (active : c.active = true)
      (waits : c.machine.cpu.mode = .awaitingKey x) :
      Frame c { c with machine := pollKeys c.machine }.finishFrame true
  /-- The instructions of the frame, or those up to one that waits for a key, came to their end. -/
  | completed {after : Machine} (active : c.active = true)
      (runs : c.machine.cpu.mode = .running)
      (ran : (runSteps c.stepsPerFrame.toNat).run c.machine = .ok () after) :
      Frame c { c with machine := after }.render.finishFrame true
  /-- A step ended in a fault after a number of others. -/
  | faulted {executed : Nat} {before after : Machine} {fault : Fault} (active : c.active = true)
      (runs : c.machine.cpu.mode = .running) (room : executed < c.stepsPerFrame.toNat)
      (executes : Executes executed c.machine before)
      (faults : step.run before = .error (.fault fault) after) :
      Frame c ({ c with machine := after }.halt fault).render false

/-- A console with a well-formed machine does not crash, and so a tick has one of the outcomes. -/
theorem tick_frame {c : Console} (h : c.machine.WellFormed size depth) :
    ∃ answer, c.tick.2 = .ok answer ∧ Frame c c.tick.1 answer := by
  unfold tick
  by_cases hactive : c.active = true
  · rw [if_neg (by simp [hactive])]
    cases hmode : c.machine.cpu.mode with
    | awaitingKey x => exact ⟨true, rfl, .waiting hactive hmode⟩
    | running =>
        cases hrun : (runSteps c.stepsPerFrame.toNat).run c.machine with
        | ok u after => exact ⟨true, rfl, .completed hactive hmode hrun⟩
        | error stop after =>
            cases stop with
            | fault fault =>
                obtain ⟨executed, before, hroom, hexecutes, hfaults⟩ := runSteps_fault hrun
                exact ⟨false, rfl, .faulted hactive hmode hroom hexecutes hfaults⟩
            | crash crash =>
                exact absurd hrun ((runSteps_wellFormed _).crash _ h crash after)
  · rw [if_pos (by simp [hactive])]
    exact ⟨true, rfl, .idle (by simpa using hactive)⟩

/-- A frame whose instructions come to their end. -/
theorem tick_completed {c : Console} (hactive : c.active = true)
    (hruns : c.machine.cpu.mode = .running)
    (hran : (runSteps c.stepsPerFrame.toNat).run c.machine = .ok () after) :
    c.tick = ({ c with machine := after }.render.finishFrame, .ok true) := by
  simp only [tick, hactive, hruns, hran]
  rfl

/-- Such a frame leaves the keys and the mode as its last instruction did. -/
theorem tick_completed_state {c : Console} (hactive : c.active = true)
    (hruns : c.machine.cpu.mode = .running)
    (hran : (runSteps c.stepsPerFrame.toNat).run c.machine = .ok () after) :
    c.tick.1.active = true ∧ c.tick.1.machine.cpu.mode = after.cpu.mode ∧
      c.tick.1.machine.keypad = after.keypad := by
  rw [tick_completed hactive hruns hran]
  exact ⟨hactive, rfl, rfl⟩

/-- What is seen of the machine at the end of the loop was left by such a frame. -/
theorem tick_of_ended {α : Type} {view : Machine → α} {seen : α} {c : Console}
    (hactive : c.active = true) (hruns : c.machine.cpu.mode = .running)
    (h : (ended? c.stepsPerFrame.toNat c.machine).map view = some seen) :
    ∃ after, view after = seen ∧
      c.tick = ({ c with machine := after }.render.finishFrame, .ok true) := by
  obtain ⟨after, hended, hseen⟩ := Option.map_eq_some_iff.1 h
  exact ⟨after, hseen, tick_completed hactive hruns (ended?_eq_some.1 hended)⟩

/-- A frame in which an instruction faults. -/
theorem tick_faulted {c : Console} {fault : Fault} (hactive : c.active = true)
    (hruns : c.machine.cpu.mode = .running)
    (hran : (runSteps c.stepsPerFrame.toNat).run c.machine = .error (.fault fault) after) :
    c.tick = (({ c with machine := after }.halt fault).render, .ok false) := by
  simp only [tick, hactive, hruns, hran]
  rfl

/-- A frame that is spent waiting for a key. -/
theorem tick_waiting {c : Console} (hactive : c.active = true) {x : Register}
    (hwaits : c.machine.cpu.mode = .awaitingKey x) :
    c.tick = ({ c with machine := pollKeys c.machine }.finishFrame, .ok true) := by
  simp only [tick, hactive, hwaits]
  rfl

theorem tick_stepsPerFrame (c : Console) : c.tick.1.stepsPerFrame = c.stepsPerFrame := by
  unfold tick
  split
  · rfl
  · split
    · rfl
    · split <;> rfl

/-- A frame that executes instructions and does not fault is that of a loop that comes to its
end. -/
theorem runSteps_of_tick {c : Console} (h : c.machine.WellFormed size depth)
    (hactive : c.active = true) (hruns : c.machine.cpu.mode = .running)
    (hanswer : c.tick.2 = .ok true) :
    ∃ after, (runSteps c.stepsPerFrame.toNat).run c.machine = .ok () after ∧
      c.tick.1 = { c with machine := after }.render.finishFrame := by
  obtain ⟨answer, hanswer', hframe⟩ := tick_frame h
  rw [hanswer'] at hanswer
  cases hanswer
  generalize c.tick.1 = next at hframe
  cases hframe with
  | idle inactive => rw [inactive] at hactive; cases hactive
  | waiting active waits => rw [waits] at hruns; cases hruns
  | completed active runs ran => exact ⟨_, ran, rfl⟩

/-! ### What frames keep -/

theorem pollKeys_wellFormed (h : m.WellFormed size depth) :
    (pollKeys m).WellFormed size depth := by
  simp only [pollKeys]
  split
  · exact h.latch
  · exact h.latch.resolveKey _

theorem render_wellFormed {c : Console} (h : c.machine.WellFormed size depth) :
    c.render.machine.WellFormed size depth :=
  ⟨h.memory, h.calls, h.cpu, h.screen.handOver⟩

/-- Every frame leaves a well-formed machine. -/
theorem Frame.wellFormed {c next : Console} {answer : Bool} (h : Frame c next answer)
    (hm : c.machine.WellFormed size depth) : next.machine.WellFormed size depth := by
  cases h with
  | idle => exact hm
  | waiting => exact (pollKeys_wellFormed hm).decrementTimers
  | @completed after _ _ ran =>
      have hafter := (runSteps_wellFormed _).ok _ hm _ _ ran
      exact (render_wellFormed (c := { c with machine := after }) hafter).decrementTimers
  | @faulted _ _ after fault _ _ _ executes faults =>
      have hafter := (executes.wellFormed hm).step_fault faults
      exact render_wellFormed (c := { c with machine := after }.halt fault) hafter

end Console

end ChipEight
