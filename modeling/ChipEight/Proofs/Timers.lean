/-
What the timers show.

A timer is set by an instruction of its own, and it counts down once with every frame that is
completed.  Here that is said of the whole life of a console at once: its `history` lists the
resets, the instructions and the completed frames, and `Timer.due` reads the value of a timer off
such a list, from the last time that it was set and the frames since.

The proof takes the operations one by one.  A reset puts both timers to zero, an instruction sets
a timer or leaves it alone, so that the loop of a frame does what its executions say, and a frame
that is completed counts down, whether it executed anything or waited for a key.
-/
import ChipEight.Proofs.Executions
import ChipEight.Proofs.KeyWait

namespace ChipEight

open Machine

/-! ### The two timers -/

/-- The timers that count down. -/
inductive Timer where
  | delay
  | sound
  deriving DecidableEq, Repr

/-- What can happen that matters to a timer. -/
inductive Happening where
  /-- Everything is reset, by hand or to load a program. -/
  | reset
  /-- An instruction comes to its end. -/
  | executed (e : Execution)
  /-- A frame is completed. -/
  | frame
  deriving DecidableEq, Repr

namespace Timer

variable {t : Timer} {m after : Machine} {instruction : Instruction} {earlier : List Happening}

def value : Timer → Cpu → Int
  | delay => Cpu.delay
  | sound => Cpu.sound

/-- What an instruction sets the timer to, if it does. -/
def setting? (t : Timer) (e : Execution) : Option UInt8 :=
  match t, e.instruction with
  | delay, .setDelay x => some (e.reg x)
  | sound, .setSound x => some (e.reg x)
  | _, _ => none

/-- What an instruction leaves of the timer. -/
def set (t : Timer) (value : Int) (e : Execution) : Int :=
  match t.setting? e with
  | some setting => setting.toNat
  | none => value

/-! ### What a timer should show -/

/-- What a happening sets the timer to, if it does. -/
def settingOf? (t : Timer) : Happening → Option UInt8
  | .executed e => t.setting? e
  | _ => none

/-- What happened since the last reset.  The list has the last happening first. -/
def sinceReset (history : List Happening) : List Happening :=
  history.takeWhile (· ≠ .reset)

/-- The value that the timer was set to last since the last reset, and zero if it was not. -/
def lastSet (t : Timer) (history : List Happening) : UInt8 :=
  ((sinceReset history).findSome? t.settingOf?).getD 0

/-- The frames completed after the timer was set last. -/
def framesSince (t : Timer) (history : List Happening) : Nat :=
  ((sinceReset history).takeWhile fun happening => t.settingOf? happening = none).count .frame

/-- What the timer shows after a history. -/
def due (t : Timer) (history : List Happening) : Int :=
  max 0 (((t.lastSet history).toNat : Int) - t.framesSince history)

theorem due_nil : t.due [] = 0 := rfl

theorem due_reset : t.due (.reset :: earlier) = 0 := rfl

theorem due_executed (e : Execution) :
    t.due (.executed e :: earlier) = t.set (t.due earlier) e := by
  cases hsetting : t.setting? e with
  | none => simp [due, lastSet, framesSince, sinceReset, settingOf?, set, hsetting]
  | some setting => simp [due, lastSet, framesSince, sinceReset, settingOf?, set, hsetting]

theorem due_frame : t.due (.frame :: earlier) = max 0 (t.due earlier - 1) := by
  have hset : t.lastSet (.frame :: earlier) = t.lastSet earlier := by
    simp [lastSet, sinceReset, List.findSome?_cons, settingOf?]
  have hframes : t.framesSince (.frame :: earlier) = t.framesSince earlier + 1 := by
    simp [framesSince, sinceReset, settingOf?]
  rw [due, due, hset, hframes]
  omega

theorem due_executions (executions : List Execution) :
    t.due ((executions.map .executed).reverse ++ earlier) =
      executions.foldl t.set (t.due earlier) := by
  induction executions generalizing earlier with
  | nil => rfl
  | cons e rest ih =>
      rw [List.map_cons, List.reverse_cons, List.append_assoc, List.singleton_append, ih,
        due_executed, List.foldl_cons]

/-! ### What it does show -/

theorem value_initial : t.value .initial = 0 := by
  cases t <;> rfl

/-- Only the instruction that is there for it sets a timer. -/
theorem value_completes (h : Completes m instruction after) :
    t.value after.cpu = t.set (t.value m.cpu) ⟨instruction, m.cpu.v⟩ := by
  cases h with
  | compute =>
      rw [onCpu_cpu, Cpu.compute_eq]
      cases t <;> rfl
  | sound nonzero =>
      rw [onSpeaker_cpu]
      cases t <;> rfl
  | restore read =>
      rw [onCpu_cpu, Cpu.setFirstRegs]
      cases t <;> rfl
  | _ => cases t <;> rfl

theorem follows (t : Timer) : Follows (fun m => t.value m.cpu) t.set where
  completes := value_completes
  moved := by intro m operand pc; cases t <;> rfl
  latch := by intro m; rfl

theorem value_decrementTimers (m : Machine) :
    t.value m.decrementTimers.cpu = Cpu.countDown (t.value m.cpu) := by
  cases t <;> rfl

theorem value_pollKeys (m : Machine) : t.value (Console.pollKeys m).cpu = t.value m.cpu := by
  have hresolve : ∀ (c : Cpu) key, t.value (c.resolveKey key) = t.value c := by
    intro c key
    unfold Cpu.resolveKey
    split <;> cases t <;> rfl
  simp only [Console.pollKeys]
  split
  · rfl
  · exact hresolve _ _

end Timer

/-! ### The life of a console -/

namespace Console

variable {settings : Settings} {c : Console} {t : Timer} {past : List Happening}

/-- What happens in an operation, the last first. -/
def happenings (c : Console) : Operation → List Happening
  | .load _ => [.reset]
  | .reset => [.reset]
  | .tick => (if c.completes then [.frame] else []) ++ (c.executions.map .executed).reverse
  | _ => []

/-- What happened in a row of operations, the last first. -/
def history (c : Console) : List Operation → List Happening
  | [] => []
  | operation :: rest => (c.apply operation).history rest ++ c.happenings operation

/-- A tick leaves the timers as its executions and then, if the frame is completed, one count
down do. -/
theorem due_tick (h : c.WellFormed settings) (hdue : t.value c.machine.cpu = t.due past) :
    t.value c.tick.1.machine.cpu = t.due (c.happenings .tick ++ past) := by
  have htick : t.value c.tick.1.machine.cpu =
      (if c.completes then Cpu.countDown else id)
        (t.due ((c.executions.map .executed).reverse ++ past)) := by
    rw [Timer.due_executions, ← hdue]
    exact follows_tick h Cpu.countDown t.follows Timer.value_pollKeys (fun _ => rfl)
      Timer.value_decrementTimers
  rw [htick, happenings, List.append_assoc]
  cases c.completes with
  | false => rfl
  | true =>
      -- What is due is never below zero.
      exact (Cpu.countDown_eq (le_max_left _ _)).trans Timer.due_frame.symm

theorem due_apply (h : c.WellFormed settings) (hdue : t.value c.machine.cpu = t.due past)
    (operation : Operation) :
    t.value (c.apply operation).machine.cpu = t.due (c.happenings operation ++ past) := by
  have hmanual : operation.Manual →
      t.value (c.apply operation).machine.cpu = t.due past := by
    intro hmanual
    rw [(still_manual hmanual).cpu, hdue]
  cases operation with
  | load program =>
      rw [apply, h.load_cpu, Timer.value_initial]
      exact Timer.due_reset.symm
  | reset =>
      rw [apply, h.reset_cpu, Timer.value_initial]
      exact Timer.due_reset.symm
  | tick => exact due_tick h hdue
  | _ => exact hmanual trivial

theorem due_after (operations : List Operation) :
    ∀ {c : Console} {past : List Happening}, c.WellFormed settings →
      t.value c.machine.cpu = t.due past →
      t.value (c.after operations).machine.cpu = t.due (c.history operations ++ past) := by
  induction operations with
  | nil => intro c past _ hdue; exact hdue
  | cons operation rest ih =>
      intro c past hwell hdue
      have hrest := ih (hwell.apply operation) (due_apply hwell hdue operation)
      rwa [← List.append_assoc] at hrest

/-- **The timers count the frames down.**  Whatever is done with a console that is switched on, a
timer shows the value that it was set to last since the last reset, whether by hand or to load a
program, less the frames that were completed since, and zero once there were more of them; it
shows zero if it was not set.  A frame that ends in a fault, or passes while the console is
inactive, is not completed. -/
theorem timer_counts_frames {speaker : Speaker} {display : Display} {random : RandomSource}
    {log : List DeviceCall} (on : poweredOn? settings speaker display random log = .ok c)
    (t : Timer) (operations : List Operation) :
    t.value (c.after operations).machine.cpu =
      max 0 (((t.lastSet (c.history operations)).toNat : Int) -
        t.framesSince (c.history operations)) := by
  have hinitial : t.value c.machine.cpu = t.due [] := by
    obtain ⟨memory, interval, hwell, hreset⟩ := poweredOn?_reset on
    have hcpu := hwell.reset_cpu
    rw [hreset] at hcpu
    rw [hcpu, Timer.value_initial]
    exact Timer.due_nil.symm
  have hdue := due_after operations (wellFormed_poweredOn on) hinitial
  rwa [List.append_nil] at hdue

/-- The console with a program that sets the delay timer to five. -/
def delayed : Console := pair.apply (.load [0x60, 0x05, 0xF0, 0x15])

set_option maxRecDepth 4000 in
theorem delayed_completes : delayed.completes = true := rfl

set_option maxRecDepth 4000 in
theorem delayed_executions :
    delayed.executions = [⟨.load 0 5, Cpu.initial.v⟩,
      ⟨.setDelay 0, (Cpu.initial.setReg 0 5).v⟩] := rfl

theorem delayed_history :
    pair.history [.load [0x60, 0x05, 0xF0, 0x15], .tick] =
      [.frame, .executed ⟨.setDelay 0, (Cpu.initial.setReg 0 5).v⟩,
        .executed ⟨.load 0 5, Cpu.initial.v⟩, .reset] := by
  have hdelayed : pair.apply (.load [0x60, 0x05, 0xF0, 0x15]) = delayed := rfl
  simp only [history, hdelayed, happenings, delayed_completes, delayed_executions]
  rfl

/-- The frame that sets the timer counts already. -/
theorem delayed_delay :
    Timer.delay.value (pair.after [.load [0x60, 0x05, 0xF0, 0x15], .tick]).machine.cpu = 4 := by
  have hdelay := timer_counts_frames pair_poweredOn .delay
    [.load [0x60, 0x05, 0xF0, 0x15], .tick]
  rw [delayed_history] at hdelay
  rw [hdelay]
  rfl

end Console

end ChipEight
