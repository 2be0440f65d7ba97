/-
From one program to its end.

A console is inactive, or active without a fault.  Loading makes it active; the fault of an
instruction halts it, in the frame in which it happens, and so does a reset.  Nothing else
changes whether it is active, and once it is halted nothing that is left to happen changes
the program's state: time can pass, keys go down and up, and the speaker be turned.

The facts about a single tick are read off the outcomes of a frame.  The halted console needs
an induction over what happens to it, which `Still` carries: it says what stays as it was, and
it can be chained.
-/
import ChipEight.Proofs.Reachable

namespace ChipEight.Console

open Machine

variable {settings : Settings} {c next : Console} {answer : Bool}

/-! ### A single tick -/

/-- The answer is false if and only if the tick halted the console. -/
theorem Frame.answer_false_iff (h : Frame c next answer) :
    answer = false ↔ c.active = true ∧ next.active = false ∧ next.fault ≠ none := by
  cases h with
  | idle inactive => simp [inactive]
  | waiting active => simp [finishFrame, active]
  | completed active => simp [finishFrame, render, active]
  | faulted active => simp [halt, render, active]

theorem Frame.active_eq (h : Frame c next answer) : next.active = (c.active && answer) := by
  cases h with
  | idle inactive => simp [inactive]
  | waiting active => simp [finishFrame, active]
  | completed active => simp [finishFrame, render, active]
  | faulted active => simp [halt, render]

/-- Only a frame without a fault counts. -/
theorem Frame.frames_eq (h : Frame c next answer) :
    next.frames = if c.active = true ∧ answer = true then c.frames + 1 else c.frames := by
  cases h with
  | idle inactive => simp [inactive]
  | waiting active => simp [finishFrame, active]
  | completed active => simp [finishFrame, render, active]
  | faulted active => simp [halt, render]

/-- A frame that ends in a fault leaves the processor at the instruction that failed, as the
instructions before it left the processor.  No timer counts. -/
theorem Frame.faulted_cpu (h : Frame c next false) :
    ∃ executed before after fault, executed < c.stepsPerFrame.toNat ∧
      Executes executed c.machine before ∧ step.run before = .error (.fault fault) after ∧
      next.fault = some fault ∧
      next.machine.cpu = { before.cpu with operand := next.machine.cpu.operand } := by
  cases h with
  | @faulted executed before after fault active runs room executes faults =>
      refine ⟨executed, before, after, fault, room, executes, faults, rfl, ?_⟩
      show after.cpu = { before.cpu with operand := after.cpu.operand }
      rcases step_fault faults with ⟨-, rfl⟩ | ⟨operand, -, -, -, -, rfl⟩
      · rfl
      · rfl

/-- A tick answers, and its answer is that of one of the outcomes. -/
theorem WellFormed.tick_answer (h : c.WellFormed settings) {answer : Bool}
    (hanswer : c.tick.2 = .ok answer) : Frame c c.tick.1 answer := by
  obtain ⟨answer', hanswer', hframe⟩ := tick_frame h.machine
  rw [hanswer] at hanswer'
  cases hanswer'
  exact hframe

/-- Only a fault halts a console. -/
theorem WellFormed.tick_active (h : c.WellFormed settings) (hactive : c.active = true)
    (hanswer : c.tick.2 = .ok true) : c.tick.1.active = true := by
  rw [(h.tick_answer hanswer).active_eq, hactive]
  rfl

/-! ### A halted console -/

/-- The operations that neither begin a program nor forget one. -/
def Operation.Passive : Operation → Prop
  | .load _ => False
  | .reset => False
  | _ => True

/-- The console after some operations, one after the other. -/
def after (c : Console) (operations : List Operation) : Console := operations.foldl apply c

/-- What each operation of a list keeps, all of them keep. -/
theorem after_induction {P : Console → Prop} {operations : List Operation} (h : P c)
    (keeps : ∀ d, P d → ∀ operation ∈ operations, P (d.apply operation)) :
    P (c.after operations) :=
  List.foldlRecOn operations apply h keeps

theorem after_append (c : Console) (earlier later : List Operation) :
    c.after (earlier ++ later) = (c.after earlier).after later :=
  List.foldl_append

theorem Reachable.after (h : Reachable settings c) {operations : List Operation} :
    Reachable settings (c.after operations) :=
  after_induction h fun _ hd operation _ => hd.apply operation

theorem WellFormed.after (h : c.WellFormed settings) (operations : List Operation) :
    (c.after operations).WellFormed settings :=
  after_induction h fun _ hd operation _ => hd.apply operation

/-- The program's state, its picture and its fault are as they were. -/
structure Still (c next : Console) : Prop where
  cpu : next.machine.cpu = c.machine.cpu
  memory : next.machine.memory = c.machine.memory
  screen : next.machine.screen = c.machine.screen
  display : next.display = c.display
  active : next.active = c.active
  fault : next.fault = c.fault
  frames : next.frames = c.frames

theorem Still.refl (c : Console) : Still c c := ⟨rfl, rfl, rfl, rfl, rfl, rfl, rfl⟩

theorem Still.trans {last : Console} (h : Still c next) (h' : Still next last) : Still c last :=
  ⟨h'.cpu.trans h.cpu, h'.memory.trans h.memory, h'.screen.trans h.screen,
    h'.display.trans h.display, h'.active.trans h.active, h'.fault.trans h.fault,
    h'.frames.trans h.frames⟩

theorem still_onSpeaker (c : Console) (action : Speaker → Speaker × List DeviceCall) :
    Still c (c.onSpeaker action) :=
  ⟨c.machine.onSpeaker_cpu action, c.machine.onSpeaker_memory action,
    c.machine.onSpeaker_screen action, rfl, rfl, rfl, rfl⟩

theorem tick_of_inactive (h : c.active = false) : c.tick = (c, .ok true) := by
  rw [tick, h]
  rfl

/-- The operations that take no time and leave the program alone: keys go down and up, and the
speaker is turned. -/
def Operation.Manual : Operation → Prop
  | .load _ => False
  | .reset => False
  | .tick => False
  | _ => True

theorem Operation.Manual.passive {operation : Operation} (h : operation.Manual) :
    operation.Passive := by
  cases operation with
  | load program => cases h
  | reset => cases h
  | _ => trivial

theorem still_manual {operation : Operation} (hmanual : operation.Manual) :
    Still c (c.apply operation) := by
  cases operation with
  | load program => cases hmanual
  | reset => cases hmanual
  | press key => exact ⟨rfl, rfl, rfl, rfl, rfl, rfl, rfl⟩
  | release key => exact ⟨rfl, rfl, rfl, rfl, rfl, rfl, rfl⟩
  | mute => exact still_onSpeaker c _
  | unmute => exact still_onSpeaker c _
  | setVolume volume => exact still_onSpeaker c _
  | tick => cases hmanual

theorem still_after_manual {operations : List Operation}
    (hmanual : ∀ operation ∈ operations, operation.Manual) : Still c (c.after operations) := by
  refine after_induction (P := Still c) (Still.refl c) ?_
  intro d hstill operation hmember
  exact hstill.trans (still_manual (hmanual operation hmember))

theorem still_apply (h : c.active = false) {operation : Operation} (hpassive : operation.Passive) :
    Still c (c.apply operation) := by
  cases operation with
  | load program => cases hpassive
  | reset => cases hpassive
  | tick =>
      rw [apply_tick, tick_of_inactive h]
      exact Still.refl c
  | _ => exact still_manual trivial

/-- Nothing that is left to happen to a halted console changes what the program left. -/
theorem still_after (h : c.active = false) {operations : List Operation}
    (hpassive : ∀ operation ∈ operations, operation.Passive) : Still c (c.after operations) := by
  refine after_induction (P := Still c) (Still.refl c) ?_
  intro d hstill operation hmember
  have hhalted : d.active = false := by rw [hstill.active, h]
  exact hstill.trans (still_apply hhalted (hpassive operation hmember))

/-! ### The count of frames -/

theorem WellFormed.frames_reset (h : c.WellFormed settings) : c.reset.1.frames = c.frames := by
  rw [h.reset_eq]

theorem WellFormed.frames_load (h : c.WellFormed settings) (program : List UInt8) :
    (c.load program).1.frames = c.frames := by
  rw [h.load_eq]
  split <;> exact h.frames_reset

/-- Nothing but a frame without a fault is counted. -/
theorem WellFormed.frames_apply (h : c.WellFormed settings) {operation : Operation}
    (hother : ¬ (operation = .tick ∧ c.active = true ∧ c.tick.2 = .ok true)) :
    (c.apply operation).frames = c.frames := by
  cases operation with
  | load program => exact h.frames_load program
  | reset => exact h.frames_reset
  | press key => rfl
  | release key => rfl
  | mute => rfl
  | unmute => rfl
  | setVolume volume => rfl
  | tick =>
      obtain ⟨answer, hanswer, hframe⟩ := tick_frame h.machine
      rw [apply_tick, hframe.frames_eq, if_neg]
      rintro ⟨hactive, rfl⟩
      exact hother ⟨rfl, hactive, hanswer⟩

/-! ### The whole life -/

/-- **The life of a console is consistent**, whatever happens to it.  Ticks and resets always come
to an end.  An active console has no fault.  A tick answers false if and only if it halts the
console; then a step of that frame ended in the fault that is shown, the processor is left at
that step with its timers as they were, and the frame does not count.  A tick of an active
console counts if it does not fault, and nothing else counts.  What is left to happen to an
inactive console changes nothing of what the program left. -/
theorem reachable_lifeCycle (h : Reachable settings c) :
    ((∃ answer, c.tick.2 = .ok answer) ∧ c.reset.2 = none) ∧
    (c.active = true → c.fault = none) ∧
    ((c.tick.2 = .ok false ↔
        c.active = true ∧ c.tick.1.active = false ∧ c.tick.1.fault ≠ none) ∧
      (c.tick.2 = .ok false →
        c.tick.1.frames = c.frames ∧
        ∃ executed before after fault, executed < c.stepsPerFrame.toNat ∧
          Executes executed c.machine before ∧ step.run before = .error (.fault fault) after ∧
          c.tick.1.fault = some fault ∧
          c.tick.1.machine.cpu = { before.cpu with operand := c.tick.1.machine.cpu.operand })) ∧
    ((c.active = true → c.tick.2 = .ok true → c.tick.1.frames = c.frames + 1) ∧
      ∀ operation, ¬ (operation = .tick ∧ c.active = true ∧ c.tick.2 = .ok true) →
        (c.apply operation).frames = c.frames) ∧
    (c.active = false → ∀ operations : List Operation,
      (∀ operation ∈ operations, operation.Passive) → Still c (c.after operations)) := by
  have hwell := h.wellFormed
  obtain ⟨answer, hanswer, hframe⟩ := tick_frame hwell.machine
  refine ⟨⟨⟨answer, hanswer⟩, ?_⟩, hwell.healthy, ⟨?_, ?_⟩, ⟨?_, ?_⟩, ?_⟩
  · rw [hwell.reset_eq]
  · rw [← hframe.answer_false_iff, hanswer, Except.ok.injEq]
  · intro hfalse
    have hfaulted := hwell.tick_answer hfalse
    exact ⟨by rw [hfaulted.frames_eq, if_neg (by simp)], hfaulted.faulted_cpu⟩
  · intro hactive htrue
    rw [(hwell.tick_answer htrue).frames_eq, if_pos ⟨hactive, rfl⟩]
  · intro operation hother
    exact hwell.frames_apply hother
  · intro hinactive operations hpassive
    exact still_after hinactive hpassive

set_option maxRecDepth 4000 in
/-- A program that returns from no call is halted in its first frame. -/
theorem small_return_halts :
    (small.apply (.load [0x00, 0xEE])).tick.2 = .ok false ∧
      (small.apply (.load [0x00, 0xEE])).tick.1.active = false ∧
      (small.apply (.load [0x00, 0xEE])).tick.1.fault ≠ none := by
  have hfalse : (small.apply (.load [0x00, 0xEE])).tick.2 = .ok false := rfl
  obtain ⟨-, -, ⟨hhalts, -⟩, -⟩ := reachable_lifeCycle (small_load_reachable [0x00, 0xEE])
  exact ⟨hfalse, (hhalts.1 hfalse).2⟩

end ChipEight.Console
