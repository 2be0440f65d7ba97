/-
What a frame executes.

`executions` lists the instructions that a loop over steps brings to their end, in order and each
with the registers that it found.  That list is all that much of the machine depends on: a part of
it that each completed instruction changes by a rule of its own, and that nothing else touches
while instructions are executed, is the fold of that rule over the list (`Follows.left_runSteps`).
The timers are such a part, and so is the speaker.

A frame ends with more than its instructions, and `Console.follows_tick` adds what its end does to
such a part.

Where a loop is cut, the list of what it executes is cut as well.
-/
import ChipEight.Proofs.LifeCycle

namespace ChipEight

open Instruction

/-- An instruction that came to its end, and the registers as it found them. -/
structure Execution where
  instruction : Instruction
  v : Vector UInt8 16
  deriving DecidableEq, Repr

namespace Execution

/-- The contents of a register as the instruction found it. -/
def reg (e : Execution) (x : Register) : UInt8 := e.v.get x

/-- How many ticks the tone is sounded for, if it is sounded. -/
def tone? (e : Execution) : Option UInt8 :=
  match e.instruction with
  | .setSound x => if e.reg x = 0 then none else some (e.reg x)
  | _ => none

/-- The instruction looks at the delay timer. -/
def ReadsDelay (e : Execution) : Prop := ∃ x, e.instruction = .readDelay x

/-- None of the instructions looks at the delay timer. -/
def Untimed (executions : List Execution) : Prop := ∀ e ∈ executions, ¬ e.ReadsDelay

theorem untimed_append {first second : List Execution} :
    Untimed (first ++ second) ↔ Untimed first ∧ Untimed second :=
  List.forall_mem_append

end Execution

namespace Machine

open Machine.Action

variable {m after : Machine} {n : Nat}

/-- The instructions that a loop over so many steps brings to their end. -/
def executions : Nat → Machine → List Execution
  | 0, _ => []
  | n + 1, m =>
    match m.next?, step.run m with
    | some instruction, .ok _ after =>
      ⟨instruction, m.cpu.v⟩ :: if after.cpu.running then executions n after.latch else []
    | _, _ => []

theorem executions_of_ok {operand : Nat} (h : step.run m = .ok operand after) :
    ∃ instruction, m.next? = some instruction ∧
      Completes (m.beginning operand) instruction after ∧
      ∀ n, executions (n + 1) m =
        ⟨instruction, m.cpu.v⟩ :: if after.cpu.running then executions n after.latch else [] := by
  obtain ⟨instruction, hnext, hcompletes⟩ := step_ok h
  refine ⟨instruction, hnext, hcompletes, ?_⟩
  intro n
  simp only [executions, hnext, h]

theorem executions_of_error {stop : Stop} (h : step.run m = .error stop after) :
    executions n m = [] := by
  cases n with
  | zero => rfl
  | succ n =>
      simp only [executions, h]
      split
      · rename_i hstep
        cases hstep
      · rfl

/-! ### Parts that follow the instructions -/

/-- A step that stops short has moved the operand and the program counter at the most. -/
theorem step_stops {stop : Stop} (h : step.run m = .error stop after) :
    ∃ operand pc, after = m.onCpu ({ · with operand := operand, pc := pc }) := by
  rw [run_step] at h
  split at h
  · cases h
    exact ⟨m.cpu.operand, m.cpu.pc, rfl⟩
  · rename_i operand _
    -- The instruction changed nothing, and then a fault puts the program counter back.
    have hexecute : ∀ stop between, (execute operand).run (m.onCpu Cpu.advance) =
        .error stop between → between = m.beginning operand := by
      intro stop between hrun
      rw [run_execute] at hrun
      split at hrun
      · cases hrun
        rfl
      · exact (perform_error hrun).1
    split at h
    · cases h
    · rename_i fault between hrun
      cases h
      rw [hexecute _ _ hrun]
      exact ⟨operand, m.cpu.pc, rfl⟩
    · rename_i crash between hrun
      cases h
      rw [hexecute _ _ hrun]
      exact ⟨operand, m.cpu.pc + 2, rfl⟩

/-- Each completed instruction changes a part of the machine by a rule, and nothing else that
happens while instructions are executed touches it. -/
structure Follows {α : Type} (part : Machine → α) (rule : α → Execution → α) : Prop where
  completes : ∀ {m instruction after}, Completes m instruction after →
    part after = rule (part m) ⟨instruction, m.cpu.v⟩
  moved : ∀ m operand pc, part (m.onCpu ({ · with operand := operand, pc := pc })) = part m
  latch : ∀ m, part m.latch = part m

section

variable {α : Type} {part : Machine → α} {rule : α → Execution → α}

theorem Follows.step_ok (h : Follows part rule) {operand : Nat} {instruction : Instruction}
    (hcompletes : Completes (m.beginning operand) instruction after) :
    part after = rule (part m) ⟨instruction, m.cpu.v⟩ := by
  rw [h.completes hcompletes]
  exact congrArg (rule · _) (h.moved m operand (m.cpu.pc + 2))

/-- What a loop leaves of such a part is told by what it executed. -/
theorem Follows.left_runSteps (h : Follows part rule) (n : Nat) :
    ∀ m, part (left ((Console.runSteps n).run m)) = (m.executions n).foldl rule (part m) := by
  induction n with
  | zero => intro m; rfl
  | succ n ih =>
      intro m
      rw [Console.run_runSteps_succ]
      cases hstep : step.run m with
      | error stop stopped =>
          obtain ⟨operand, pc, rfl⟩ := step_stops hstep
          rw [executions_of_error hstep]
          exact h.moved m operand pc
      | ok operand between =>
          obtain ⟨instruction, -, hcompletes, hlist⟩ := executions_of_ok hstep
          rw [hlist, List.foldl_cons, ← h.step_ok hcompletes]
          by_cases hruns : between.cpu.running = true
          · simp only [if_pos hruns]
            rw [ih, h.latch]
          · simp only [if_neg hruns]
            exact h.latch between

/-- A part that comes of the speaker and of what the devices were asked for follows the tones. -/
theorem follows_tones (play : α → UInt8 → α)
    (hquiet : ∀ m m' : Machine, m'.speaker = m.speaker → m'.log = m.log → part m' = part m)
    (hplays : ∀ (m : Machine) (ticks : UInt8),
      part (m.onSpeaker fun s => ((s.play ticks.toNat).1, (s.play ticks.toNat).2.1)) =
        play (part m) ticks)
    (hrule : ∀ a e, rule a e = e.tone?.elim a (play a)) : Follows part rule where
  completes := by
    intro m instruction after h
    rw [hrule]
    cases h with
    | @silence x zero =>
        have htone : Execution.tone? ⟨.setSound x, m.cpu.v⟩ = none := if_pos zero
        rw [htone]
        exact hquiet _ _ rfl rfl
    | @sound x nonzero =>
        have htone : Execution.tone? ⟨.setSound x, m.cpu.v⟩ = some (m.cpu.reg x) :=
          if_neg nonzero
        rw [htone, hplays]
        exact congrArg (play · _) (hquiet _ _ rfl rfl)
    | restore read => exact hquiet _ _ (onCpu_speaker _ _) (onCpu_log _ _)
    | _ => exact hquiet _ _ rfl rfl
  moved := fun _ _ _ => hquiet _ _ rfl rfl
  latch := fun _ => hquiet _ _ rfl rfl

theorem foldl_tones {play : α → UInt8 → α} (hrule : ∀ a e, rule a e = e.tone?.elim a (play a))
    (executions : List Execution) (a : α) :
    executions.foldl rule a = (executions.filterMap Execution.tone?).foldl play a := by
  rw [List.foldl_filterMap]
  congr 1
  funext a e
  rw [hrule]
  cases e.tone? <;> rfl

end

/-! ### A loop that is cut -/

/-- What a loop executes is what it executes up to a cut and then, if it goes on, after it. -/
theorem executions_add (n k : Nat) :
    ∀ {m : Machine}, m.cpu.running = true →
      m.executions (n + k) = m.executions n ++
        match (Console.runSteps n).run m with
        | .ok _ after => if after.cpu.running then after.executions k else []
        | .error _ _ => [] := by
  induction n with
  | zero =>
      intro m hruns
      have hnothing : (Console.runSteps 0).run m = .ok () m := rfl
      rw [Nat.zero_add, hnothing]
      simp only [executions, if_pos hruns, List.nil_append]
  | succ n ih =>
      intro m _
      rw [Nat.add_right_comm, Console.run_runSteps_succ]
      cases hstep : step.run m with
      | error stop stopped =>
          rw [executions_of_error hstep, executions_of_error hstep]
          rfl
      | ok operand between =>
          obtain ⟨instruction, -, -, hlist⟩ := executions_of_ok hstep
          rw [hlist, hlist, List.cons_append]
          by_cases hgoes : between.cpu.running = true
          · simp only [if_pos hgoes]
            rw [ih (m := between.latch) hgoes]
          · have hwaits : ¬ between.latch.cpu.running = true := hgoes
            simp only [if_neg hgoes, if_neg hwaits, List.append_nil]

end Machine

/-! ### Frames -/

namespace Console

open Machine

theorem executing_of_running {c : Console} (hactive : c.active = true)
    (hruns : c.machine.cpu.mode = .running) : c.executing = true := by
  have hrunning : c.machine.cpu.running = true := decide_eq_true hruns
  rw [executing, hactive, hrunning]
  rfl

theorem executing_of_inactive {c : Console} (hinactive : c.active = false) :
    c.executing = false := by
  rw [executing, hinactive]
  rfl

theorem executing_of_waiting {c : Console} {x : Register}
    (hwaits : c.machine.cpu.mode = .awaitingKey x) : c.executing = false := by
  have hstops : c.machine.cpu.running = false := Cpu.running_eq_false.2 ⟨x, hwaits⟩
  rw [executing, hstops, Bool.and_false]

/-- What the next frame of a console executes. -/
def executions (c : Console) : List Execution :=
  if c.executing then c.machine.executions c.stepsPerFrame.toNat else []

theorem executions_of_running {c : Console} (hactive : c.active = true)
    (hruns : c.machine.cpu.mode = .running) :
    c.executions = c.machine.executions c.stepsPerFrame.toNat := by
  rw [executions, executing_of_running hactive hruns]
  rfl

theorem executions_of_inactive {c : Console} (hinactive : c.active = false) :
    c.executions = [] := by
  rw [executions, executing_of_inactive hinactive]
  rfl

theorem executions_of_waiting {c : Console} {x : Register}
    (hwaits : c.machine.cpu.mode = .awaitingKey x) : c.executions = [] := by
  rw [executions, executing_of_waiting hwaits]
  rfl

/-- Whether the next frame is one that is completed. -/
def completes (c : Console) : Bool :=
  c.active && match c.tick.2 with
    | .ok answer => answer
    | .error _ => false

/-- The machine when the work of the next frame is done, and before anything is shown or counted. -/
def worked (c : Console) : Machine :=
  if c.executing then left ((runSteps c.stepsPerFrame.toNat).run c.machine)
  else if c.active then pollKeys c.machine
  else c.machine

/-- A frame does its work, then shows what it executed, and then counts if it is completed. -/
theorem tick_eq {settings : Settings} {c : Console} (hwell : c.WellFormed settings) :
    ∃ d : Console, d.machine = c.worked ∧ d.display = c.display ∧
      c.tick.1 = (if c.completes then finishFrame else id) (if c.executing then d.render else d) := by
  obtain ⟨answer, hanswer, hframe⟩ := tick_frame hwell.machine
  have hcompletes : c.completes = (c.active && answer) := by rw [completes, hanswer]
  rw [hcompletes, worked]
  generalize c.tick.1 = next at hframe ⊢
  cases hframe with
  | idle inactive =>
      rw [executing_of_inactive inactive, inactive]
      exact ⟨c, rfl, rfl, rfl⟩
  | waiting active waits =>
      rw [executing_of_waiting waits, active]
      exact ⟨{ c with machine := pollKeys c.machine, active := true }, rfl, rfl, rfl⟩
  | @completed after active runs ran =>
      rw [executing_of_running active runs, active, ran]
      exact ⟨{ c with machine := after, active := true }, rfl, rfl, rfl⟩
  | @faulted executed before after fault active runs room executes faults =>
      rw [executing_of_running active runs, Bool.and_false,
        runSteps_of_stop executes faults room]
      exact ⟨{ c with machine := after }.halt fault, rfl, rfl, rfl⟩

/-- The work of a frame changes a part that follows the instructions as its executions do. -/
theorem follows_worked {α : Type} {part : Machine → α} {rule : α → Execution → α}
    (h : Follows part rule) (hpoll : ∀ m, part (pollKeys m) = part m) (c : Console) :
    part c.worked = c.executions.foldl rule (part c.machine) := by
  rw [worked, executions]
  split
  · exact h.left_runSteps _ _
  · split
    · exact hpoll _
    · rfl

/-- A frame changes a part that follows the instructions as its executions do and then, if it is
completed, as its end does. -/
theorem follows_tick {settings : Settings} {c : Console} (hwell : c.WellFormed settings)
    {α : Type} {part : Machine → α} {rule : α → Execution → α} (last : α → α)
    (h : Follows part rule) (hpoll : ∀ m, part (pollKeys m) = part m)
    (hrender : ∀ d : Console, part d.render.machine = part d.machine)
    (hlast : ∀ m : Machine, part m.decrementTimers = last (part m)) :
    part c.tick.1.machine =
      (if c.completes then last else id) (c.executions.foldl rule (part c.machine)) := by
  obtain ⟨d, hworked, -, htick⟩ := tick_eq hwell
  have hshown : part (if c.executing then d.render else d).machine =
      c.executions.foldl rule (part c.machine) := by
    rw [← follows_worked h hpoll, ← hworked]
    split
    · exact hrender d
    · rfl
  rw [htick, ← hshown]
  cases c.completes with
  | false => rfl
  | true => exact hlast _

/-! ### A number of frames -/

/-- The console after a number of frames. -/
def ticked (ticks : Nat) (c : Console) : Console := c.after (List.replicate ticks .tick)

theorem ticked_succ (ticks : Nat) (c : Console) : c.ticked (ticks + 1) = c.tick.1.ticked ticks :=
  rfl

/-- What a number of frames execute. -/
def executionsIn : Nat → Console → List Execution
  | 0, _ => []
  | ticks + 1, c => c.executions ++ executionsIn ticks c.tick.1

end Console

end ChipEight
