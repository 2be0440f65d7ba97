/-
A run is its hook and its ticks, in turn.

A run has frames follow one another until it is stopped.  Before each frame a hook is called, which
may use the console in any way and may stop the run; after each frame the run sleeps, and the run
may be stopped in its sleep.  What a clock shows decides how long the run sleeps, and nothing else.

`pace` is the loop over frames with such a hook and an arbitrary clock, and it writes down what it
does.  Of that record and of the console that is left, everything can be told beforehand: a run
makes rounds of a call of the hook, a tick and a sleep, until a call of the hook or a sleep stops
it, and it leaves the console that the same operations, one after the other, leave without any run.
Since twins stay twins whatever is done to both, their runs make the same rounds and leave twins.
-/
import ChipEight.Pacing
import ChipEight.Proofs.Twins

namespace ChipEight

/-! ### Runs -/

/-- A clock, by what it does to its state. -/
structure Clock (κ : Type) where
  /-- Shows a time. -/
  now : κ → Binary64 × κ
  /-- Lets some time pass.  The answer is true if the run was stopped meanwhile. -/
  sleep : Binary64 → κ → κ × Bool

/-- The clock lets all its sleepers sleep. -/
def Clock.NeverStops {κ : Type} (clock : Clock κ) : Prop :=
  ∀ time k, (clock.sleep time k).2 = false

namespace Console

/-- What a hook can do. -/
inductive Act where
  /-- It uses the console, and does not mind if that fails. -/
  | operate (operation : Operation)
  /-- It wants no more frames. -/
  | stop
  deriving DecidableEq

/-- The operation of an act, if it has one. -/
def Act.operation? : Act → Option Operation
  | operate operation => some operation
  | stop => none

def act (c : Console) : Act → Console
  | .operate operation => c.apply operation
  | .stop => c.stop

/-- What a hook does when it is called for the first, the second and every further time. -/
abbrev Hook := Nat → List Act

/-- Something a run does. -/
inductive Happening where
  /-- It calls its hook, which was called so often before. -/
  | hook (call : Nat)
  | tick
  /-- It sleeps, and is stopped meanwhile or not. -/
  | sleep (stopped : Bool)
  deriving DecidableEq, Repr

/-- A run, as far as it has come. -/
structure Run (κ : Type) where
  console : Console
  clock : κ
  /-- How often the hook was called. -/
  calls : Nat
  /-- What the run did, first things first. -/
  trace : List Happening

namespace Run

variable {κ : Type}

/-- The hook is called. -/
def hooked (hook : Hook) (r : Run κ) : Run κ :=
  { r with
    console := (hook r.calls).foldl act r.console
    calls := r.calls + 1
    trace := r.trace ++ [.hook r.calls] }

def ticked (r : Run κ) : Run κ :=
  { r with console := r.console.tick.1, trace := r.trace ++ [.tick] }

def slept (clock : Clock κ) (time : Binary64) (r : Run κ) : Run κ :=
  let (k, stopped) := clock.sleep time r.clock
  { r with
    console := if stopped then r.console.stop else r.console
    clock := k
    trace := r.trace ++ [.sleep stopped] }

/-- The actions of a run. -/
def pace (clock : Clock κ) (hook : Hook) : Pace (StateM (Run κ)) Binary64 :=
  { now := modifyGet fun r => ((clock.now r.clock).1, { r with clock := (clock.now r.clock).2 })
    sleep := fun time => modify (slept clock time)
    poll := modify (hooked hook)
    tick := modify ticked
    going := do return (← get).console.looping }

end Run

/-- A run of a console from now on, of not more than a number of turns.  The answer says whether it
came to its end, or why it did not begin. -/
def run {κ : Type} (c : Console) (clock : Clock κ) (k : κ) (hook : Hook) (bound : Nat) :
    Except ArithmeticError (Bool × Run κ) :=
  match c.start with
  | (_, some error) => .error error
  | (started, none) =>
    .ok (((Run.pace clock hook).run c.interval bound).run ⟨started, k, 0, []⟩)

namespace Run

variable {κ : Type} {clock : Clock κ} {hook : Hook} {interval next : Binary64} {r : Run κ}

/-! ### Single turns -/

theorem run_turn_of_stopped (h : r.console.looping = false) :
    ((pace clock hook).turn interval next).run r = (none, r) := by
  simp only [Pace.turn, pace, bind_pure_comp, Bool.not_eq_eq_eq_not, Bool.not_true, pure_bind,
    bind_map_left, StateT.run_bind, StateT.run_get, h, ↓reduceIte, StateT.run_pure]
  rfl

theorem run_turn_of_hookStops (h : r.console.looping = true)
    (hstops : (r.hooked hook).console.looping = false) :
    ((pace clock hook).turn interval next).run r = (none, r.hooked hook) := by
  simp only [Pace.turn, pace, bind_pure_comp, Bool.not_eq_eq_eq_not, Bool.not_true, pure_bind,
    bind_map_left, StateT.run_bind, StateT.run_get, h, Bool.true_eq_false, ↓reduceIte,
    StateT.run_modify, hstops, StateT.run_pure]
  rfl

/-- Whatever the clock shows, a turn whose hook does not stop the run is a tick and a sleep. -/
theorem run_turn (h : r.console.looping = true)
    (hgoes : (r.hooked hook).console.looping = true) :
    ∃ later time k, ((pace clock hook).turn interval next).run r =
      (some later, ({ (r.hooked hook).ticked with clock := k } : Run κ).slept clock time) := by
  simp only [Pace.turn, pace, bind_pure_comp, Bool.not_eq_eq_eq_not, Bool.not_true, pure_bind,
    bind_map_left, StateT.run_bind, StateT.run_get, h, Bool.true_eq_false, ↓reduceIte,
    StateT.run_modify, hgoes, StateT.run_modifyGet]
  split
  · exact ⟨_, _, _, rfl⟩
  · exact ⟨_, _, _, rfl⟩

theorem run_turns_succ (n : Nat) :
    ((pace clock hook).turns interval (n + 1) next).run r =
      match ((pace clock hook).turn interval next).run r with
      | (none, after) => (true, after)
      | (some later, after) => ((pace clock hook).turns interval n later).run after := by
  rw [Pace.turns, StateT.run_bind]
  cases ((pace clock hook).turn interval next).run r with
  | mk answer after => cases answer <;> rfl

/-! ### Operations -/

end Run

variable {c d : Console}

/-- Only a stop, and no operation, has to do with whether frames are wanted. -/
theorem apply_looping (c : Console) (looping : Bool) (operation : Operation) :
    ({ c with looping := looping } : Console).apply operation =
      { c.apply operation with looping := looping } := by
  cases operation with
  | load program =>
      simp only [apply, load, reset]
      cases Font.install c.machine.memory.cleared with
      | mk memory fault =>
          cases fault with
          | some fault => rfl
          | none =>
              simp only
              split <;> rfl
  | reset =>
      simp only [apply, reset]
      split <;> rfl
  | tick =>
      simp only [apply, tick]
      split
      · rfl
      · split
        · rfl
        · split <;> rfl
  | _ => rfl

/-- The operations among some acts. -/
def operations (acts : List Act) : List Operation := acts.filterMap Act.operation?

theorem operations_operate (operation : Operation) (rest : List Act) :
    operations (.operate operation :: rest) = operation :: operations rest := rfl

theorem operations_stop (rest : List Act) : operations (.stop :: rest) = operations rest := rfl

/-- Acts are their operations, and a stop if there is one among them. -/
theorem foldl_act (acts : List Act) :
    ∀ (c : Console) (looping : Bool), acts.foldl act { c with looping := looping } =
      { c.after (operations acts) with looping := looping && decide (.stop ∉ acts) } := by
  induction acts with
  | nil => intro c looping; simp [operations, after]
  | cons first rest ih =>
      intro c looping
      cases first with
      | operate operation =>
          rw [List.foldl_cons, act, apply_looping, ih]
          simp [operations_operate, after]
      | stop =>
          show rest.foldl act { c with looping := false } = _
          rw [ih]
          simp [operations_stop]

/-! ### Rounds -/

/-- The operations of the first rounds: in each those of the hook, and then a tick. -/
def schedule (hook : Hook) (rounds : Nat) : List Operation :=
  (List.range rounds).flatMap fun call => operations (hook call) ++ [.tick]

/-- What a run does in its first rounds, if no sleep is broken off. -/
def rounds (n : Nat) : List Happening :=
  (List.range n).flatMap fun call => [.hook call, .tick, .sleep false]

theorem schedule_succ (hook : Hook) (n : Nat) :
    schedule hook (n + 1) = schedule hook n ++ operations (hook n) ++ [.tick] := by
  simp [schedule, List.range_succ, List.flatMap_append]

theorem rounds_succ (n : Nat) : rounds (n + 1) = rounds n ++ [.hook n, .tick, .sleep false] := by
  simp [rounds, List.range_succ, List.flatMap_append]

namespace Run

variable {κ : Type} {clock : Clock κ} {hook : Hook} {interval : Binary64} {r : Run κ} {n : Nat}

/-- The run has made so many rounds, and goes on. -/
structure Made (c : Console) (hook : Hook) (n : Nat) (r : Run κ) : Prop where
  console : r.console = { c.after (schedule hook n) with looping := true }
  calls : r.calls = n
  trace : r.trace = rounds n

/-- How a run ends whose hook would stop it in its round `n`. -/
inductive Ends (c : Console) (clock : Clock κ) (hook : Hook) (n : Nat) (r : Run κ) : Prop
  /-- The hook stopped it, and nothing followed. -/
  | byHook (trace : r.trace = rounds n ++ [.hook n])
      (console : r.console =
        { c.after (schedule hook n ++ operations (hook n)) with looping := false })
  /-- It was stopped in an earlier sleep, and nothing followed. -/
  | bySleep {i : Nat} (earlier : i < n) (stopped : ¬ clock.NeverStops)
      (trace : r.trace = rounds i ++ [.hook i, .tick, .sleep true])
      (console : r.console = { c.after (schedule hook (i + 1)) with looping := false })

theorem Made.hooked (h : r.Made c hook n) :
    (r.hooked hook).console =
      { c.after (schedule hook n ++ operations (hook n)) with
        looping := decide (.stop ∉ hook n) } := by
  rw [Run.hooked, h.console, h.calls]
  simp only [foldl_act, Bool.true_and, after_append]

theorem Made.hooked_trace (h : r.Made c hook n) :
    (r.hooked hook).trace = rounds n ++ [.hook n] := by
  rw [Run.hooked, h.trace, h.calls]

theorem Made.ticked (h : r.Made c hook n) (hstays : Act.stop ∉ hook n) :
    (r.hooked hook).ticked.console =
      { c.after (schedule hook (n + 1)) with looping := true } := by
  show (r.hooked hook).console.apply .tick = _
  rw [h.hooked, decide_eq_true hstays, apply_looping, schedule_succ, c.after_append _ [.tick]]
  rfl

/-- After a round a run goes on, unless it was stopped in its sleep. -/
theorem Made.slept (h : r.Made c hook n) (hstays : Act.stop ∉ hook n) (time : Binary64) (k : κ) :
    let after := ({ (r.hooked hook).ticked with clock := k } : Run κ).slept clock time
    let stopped := (clock.sleep time k).2
    after.console = { c.after (schedule hook (n + 1)) with looping := !stopped } ∧
      after.calls = n + 1 ∧ after.trace = rounds n ++ [.hook n, .tick, .sleep stopped] := by
  refine ⟨?_, ?_, ?_⟩
  · rw [Run.slept]
    simp only [h.ticked hstays]
    cases (clock.sleep time k).2 <;> rfl
  · show r.calls + 1 = n + 1
    rw [h.calls]
  · show (r.hooked hook).trace ++ [.tick] ++ [.sleep _] = _
    rw [h.hooked_trace]
    simp

/-- A run comes to its end, if its hook stops it within the bound. -/
theorem turns_end (hgoes : ∀ i < n, Act.stop ∉ hook i) (hstops : Act.stop ∈ hook n) (bound : Nat) :
    ∀ {i : Nat} {next : Binary64} {r : Run κ}, r.Made c hook i → i ≤ n → n < i + bound →
      ∃ ended, ((pace clock hook).turns interval bound next).run r = (true, ended) ∧
        ended.Ends c clock hook n := by
  induction bound with
  | zero => intro i next r _ hle hlt; omega
  | succ bound ih =>
      intro i next r hmade hle hlt
      have hlooping : r.console.looping = true := by rw [hmade.console]
      rw [run_turns_succ]
      by_cases hlast : i = n
      · subst hlast
        have hconsole := hmade.hooked
        rw [decide_eq_false (not_not.2 hstops)] at hconsole
        rw [run_turn_of_hookStops hlooping (by rw [hconsole])]
        exact ⟨_, rfl, .byHook hmade.hooked_trace hconsole⟩
      · have hstays := hgoes i (by omega)
        have hconsole := hmade.hooked
        rw [decide_eq_true hstays] at hconsole
        obtain ⟨later, time, k, hturn⟩ := run_turn hlooping (by rw [hconsole])
        obtain ⟨hslept, hcalls, htrace⟩ := hmade.slept hstays time k
        rw [hturn]
        cases hstopped : (clock.sleep time k).2 with
        | false =>
            rw [hstopped] at hslept htrace
            refine ih ⟨hslept, hcalls, ?_⟩ (by omega) (by omega)
            rw [rounds_succ, htrace]
        | true =>
            -- The next turn finds that no more frames are wanted.
            rw [hstopped] at hslept htrace
            obtain ⟨rest, rfl⟩ : ∃ rest, bound = rest + 1 := ⟨bound - 1, by omega⟩
            simp only [run_turns_succ, run_turn_of_stopped (congrArg Console.looping hslept)]
            refine ⟨_, rfl, .bySleep (by omega) ?_ htrace hslept⟩
            intro hnever
            rw [hnever time k] at hstopped
            cases hstopped

end Run

variable {κ κ' : Type} {settings : Settings} {hook : Hook} {n : Nat} {gap : Int}

theorem run_ends (clock : Clock κ) (k : κ) (hinterval : c.interval.isZero = false)
    (hgoes : ∀ i < n, Act.stop ∉ hook i) (hstops : Act.stop ∈ hook n) {bound : Nat}
    (hbound : n < bound) :
    ∃ ended, c.run clock k hook bound = .ok (true, ended) ∧ ended.Ends c clock hook n := by
  have hmade : Run.Made c hook 0 ⟨{ c with looping := true }, (clock.now k).2, 0, []⟩ :=
    ⟨rfl, rfl, rfl⟩
  have hturns : ∃ ended,
      ((Run.pace clock hook).turns c.interval bound (clock.now k).1).run _ = (true, ended) ∧
        ended.Ends c clock hook n :=
    Run.turns_end hgoes hstops bound hmade (by omega) (by omega)
  obtain ⟨ended, hrun, hends⟩ := hturns
  refine ⟨ended, ?_, hends⟩
  simp only [run, start, hinterval]
  exact congrArg Except.ok hrun

/-- **A run is its hook and its ticks, in turn**, and neither clocks nor devices make a difference
to it.  Let a hook stop a run in its call `n`, and not before.  Then the run comes to its end.  It
did nothing but call the hook, tick and sleep, in rounds; it ended with the call that stopped it, or
with an earlier sleep in which it was stopped, and it left the console that the operations of the
hook and the ticks leave if they are done without a run.  No tick crashed.  Two consoles that
differ in their devices, their clocks and the length of their frames, and are to draw the same
random numbers, run through the same rounds and differ in nothing else afterwards, unless a clock
stops one of them. -/
theorem run_is_hook_then_tick (hc : c.WellFormed settings) (htwin : c.Twin gap d)
    (clock : Clock κ) (clock' : Clock κ') (k : κ) (k' : κ') (hinterval : c.interval.isZero = false)
    (hinterval' : d.interval.isZero = false) (hgoes : ∀ i < n, Act.stop ∉ hook i)
    (hstops : Act.stop ∈ hook n) {bound bound' : Nat} (hbound : n < bound) (hbound' : n < bound') :
    ∃ r r', c.run clock k hook bound = .ok (true, r) ∧
      d.run clock' k' hook bound' = .ok (true, r') ∧
      r.Ends c clock hook n ∧ r'.Ends d clock' hook n ∧
      (∀ i, ∃ answer,
        (c.after (schedule hook i ++ operations (hook i))).tick.2 = .ok answer ∧
        (d.after (schedule hook i ++ operations (hook i))).tick.2 = .ok answer) ∧
      (clock.NeverStops → clock'.NeverStops →
        r'.trace = r.trace ∧ r.console.Twin gap r'.console) := by
  obtain ⟨r, hrun, hends⟩ := run_ends clock k hinterval hgoes hstops hbound
  obtain ⟨r', hrun', hends'⟩ := run_ends clock' k' hinterval' hgoes hstops hbound'
  refine ⟨r, r', hrun, hrun', hends, hends', ?_, ?_⟩
  · intro i
    have hwell := hc.after (schedule hook i ++ operations (hook i))
    obtain ⟨answer, hanswer, -⟩ := tick_frame hwell.machine
    have hsame := ((htwin.after hc (schedule hook i ++ operations (hook i))).tick hwell).2
    exact ⟨answer, hanswer, hsame.trans hanswer⟩
  · intro hnever hnever'
    cases hends with
    | bySleep _ stopped => exact absurd hnever stopped
    | byHook trace console =>
        cases hends' with
        | bySleep _ stopped' => exact absurd hnever' stopped'
        | byHook trace' console' =>
            rw [trace, trace', console, console']
            exact ⟨rfl, (htwin.after hc _).withLooping _ _⟩

/-- A clock that stands still. -/
def standing : Clock Unit := ⟨fun k => (.zero, k), fun _ k => (k, false)⟩

/-- A clock that goes on by a second whenever it is looked at, and by nine in every sleep. -/
def racing : Clock Nat :=
  ⟨fun k => (.ofQuotient false k 1, k + 1), fun _ k => (k + 9, false)⟩

/-- A hook that loads a program, and in its third call stops the run and resets the console. -/
def briefHook : Hook
  | 0 => [.operate (.load [0xF0, 0x0A, 0x12, 0x00]), .operate (.press 3)]
  | 1 => [.operate (.release 3)]
  | _ => [.stop, .operate .reset]

/-- A console with room for two instructions, without a speaker and a display, with shorter frames
and after five numbers were drawn. -/
def pairElsewhere : Console := pair.elsewhere none ⟨fun _ => 0, 5⟩ .off ⟨0x3F81111111111111⟩

set_option maxRecDepth 4000 in
theorem pair_host : pair.machine.random = .cycle [] ∧ pair.interval.isZero = false := ⟨rfl, rfl⟩

theorem twin_pairElsewhere : pair.Twin 5 pairElsewhere := by
  have hlevel : pair.machine.random.Level 5 ⟨fun _ => 0, 5⟩ := by
    rw [pair_host.1]
    exact ⟨fun _ => by simp [RandomSource.cycle], by simp [RandomSource.cycle]⟩
  exact twin_elsewhere hlevel

/-- Both make two rounds. -/
theorem run_is_hook_then_tick_pair :
    ∃ r r', pair.run standing () briefHook 3 = .ok (true, r) ∧
      pairElsewhere.run racing 0 briefHook 5 = .ok (true, r') ∧
      r.trace = [.hook 0, .tick, .sleep false, .hook 1, .tick, .sleep false, .hook 2] ∧
      r'.trace = r.trace ∧ r.console.Twin 5 r'.console := by
  have hpair : pair.WellFormed pairSettings := (Reachable.poweredOn pair_poweredOn).wellFormed
  have hgoes : ∀ i < 2, Act.stop ∉ briefHook i := by decide
  have hstops : Act.stop ∈ briefHook 2 := by decide
  have hinterval' : pairElsewhere.interval.isZero = false := by decide
  have hnever : standing.NeverStops := fun _ _ => rfl
  have hnever' : racing.NeverStops := fun _ _ => rfl
  obtain ⟨r, r', hrun, hrun', hends, -, -, hsame⟩ :=
    run_is_hook_then_tick hpair twin_pairElsewhere standing racing () 0 pair_host.2 hinterval' hgoes
      hstops (by decide : 2 < 3) (by decide : 2 < 5)
  obtain ⟨htrace, htwin⟩ := hsame hnever hnever'
  refine ⟨r, r', hrun, hrun', ?_, htrace, htwin⟩
  cases hends with
  | byHook trace _ => exact trace
  | bySleep _ stopped => exact absurd hnever stopped

end Console

end ChipEight
