/-
How a run keeps its pace.

A run sleeps until the deadline of the next frame, and so a frame never starts before it.  What is
asked of the clock for that is not much: it does not go back, and a sleep lasts as long as it was
told to.  How long the poll and the frame take, how much time it takes to read the clock and how
much longer than told a sleep lasts is left open.

A run that lags behind by more than one interval gives the lost time up.  The deadline is then read
off the clock anew, and so it lies beyond the one that was missed: a run that starts anew is not
early either.  It sleeps in that case for a time that is not positive, which is no time.

The times are exact here.  `Begins` follows the turns of a run, each with its deadline, and
`Begins.due` is the invariant: when a turn begins, the clock has reached its deadline, and no
deadline comes before its place in an even row.
-/
import ChipEight.Pacing
import Mathlib.Algebra.Order.Ring.Rat
import Mathlib.Tactic.Linarith
import Mathlib.Tactic.NormNum

namespace ChipEight.Pace

/-! ### What actions keep -/

section

variable {σ α β : Type} {J : σ → Prop}

/-- An action keeps a condition on the state. -/
def Keeps (J : σ → Prop) (act : StateM σ α) : Prop := ∀ s, J s → J (act.run s).2

theorem keeps_pure (a : α) : Keeps J (pure a) := fun _ hs => hs

theorem Keeps.bind {act : StateM σ α} {next : α → StateM σ β} (hact : Keeps J act)
    (hnext : ∀ a, Keeps J (next a)) : Keeps J (act >>= next) := by
  intro s hs
  rw [StateT.run_bind]
  exact hnext _ _ (hact s hs)

variable {τ : Type} [Add τ] [Sub τ] [Neg τ] [LT τ] [DecidableLT τ]

/-- Every action of a run keeps a condition on its state. -/
structure AllKeep (J : σ → Prop) (p : Pace (StateM σ) τ) : Prop where
  now : Keeps J p.now
  sleep : ∀ time, Keeps J (p.sleep time)
  poll : Keeps J p.poll
  tick : Keeps J p.tick
  going : Keeps J p.going

variable {p : Pace (StateM σ) τ} {interval : τ}

theorem AllKeep.turn (h : AllKeep J p) (next : τ) : Keeps J (p.turn interval next) := by
  have hlast : ∀ delay next, Keeps J (do p.sleep delay; return (some next : Option τ)) :=
    fun delay _ => (h.sleep delay).bind fun _ => keeps_pure _
  refine h.going.bind fun going => ?_
  cases going with
  | false => exact keeps_pure _
  | true =>
      refine h.poll.bind fun _ => h.going.bind fun going => ?_
      cases going with
      | false => exact keeps_pure _
      | true =>
          refine h.tick.bind fun _ => h.now.bind fun now => ?_
          dsimp only
          split
          · exact h.now.bind fun next => hlast _ next
          · exact hlast _ _

theorem AllKeep.turns (h : AllKeep J p) (bound : Nat) :
    ∀ next, Keeps J (p.turns interval bound next) := by
  induction bound with
  | zero => intro next; exact keeps_pure _
  | succ bound ih =>
      intro next
      refine (h.turn next).bind fun answer => ?_
      cases answer with
      | none => exact keeps_pure _
      | some next => exact ih next

/-- What every action keeps, a run keeps. -/
theorem AllKeep.run (h : AllKeep J p) (bound : Nat) : Keeps J (p.run interval bound) :=
  h.now.bind fun next => h.turns bound next

end

/-! ### Runs in exact time -/

/-- What a run goes on in, by what its actions make of a state. -/
structure World (κ : Type) where
  /-- The time that the clock shows. -/
  time : κ → ℚ
  /-- The clock is read. -/
  read : κ → κ
  sleep : ℚ → κ → κ
  poll : κ → κ
  tick : κ → κ
  /-- Whether the run is to go on. -/
  going : κ → Bool

namespace World

variable {κ : Type}

/-- The actions of a run. -/
def pace (w : World κ) : Pace (StateM κ) ℚ :=
  { now := modifyGet fun k => (w.time k, w.read k)
    sleep := fun time => modify (w.sleep time)
    poll := modify w.poll
    tick := modify w.tick
    going := do return w.going (← get) }

/-- The clock does not go back, whatever is done, and nobody sleeps for less than the time that
was asked for. -/
structure Steady (w : World κ) : Prop where
  read : ∀ k, w.time k ≤ w.time (w.read k)
  sleep : ∀ time k, w.time k ≤ w.time (w.sleep time k)
  slept : ∀ time k, 0 < time → w.time k + time ≤ w.time (w.sleep time k)
  poll : ∀ k, w.time k ≤ w.time (w.poll k)
  tick : ∀ k, w.time k ≤ w.time (w.tick k)

/-- The time at which the frame starts, in a turn that begins in a state. -/
def started (w : World κ) (k : κ) : ℚ := w.time (w.poll k)

/-- The time that is read when the frame is over. -/
def checked (w : World κ) (k : κ) : ℚ := w.time (w.tick (w.poll k))

/-- The time read then is more than one interval behind the next deadline. -/
def Late (w : World κ) (interval next : ℚ) (k : κ) : Prop :=
  next + interval - w.checked k < -interval

instance (w : World κ) (interval next : ℚ) (k : κ) : Decidable (w.Late interval next k) :=
  inferInstanceAs (Decidable (_ < _))

variable (w : World κ) {interval next later : ℚ} {k before after : κ} {i : Nat}

theorem turn_eq (interval next : ℚ) (k : κ) :
    (w.pace.turn interval next).run k =
      if w.going k then
        if w.going (w.poll k) then
          let checked := w.read (w.tick (w.poll k))
          let delay := next + interval - w.checked k
          if w.Late interval next k then
            (some (w.time checked), w.sleep delay (w.read checked))
          else (some (next + interval), w.sleep delay checked)
        else (none, w.poll k)
      else (none, k) := by
  simp only [Pace.turn, pace, bind_pure_comp, bind_map_left, StateT.run_bind, StateT.run_get,
    pure_bind]
  cases w.going k with
  | false => rfl
  | true =>
      simp only [Bool.not_true, Bool.false_eq_true, ↓reduceIte, StateT.run_bind,
        StateT.run_modify, StateT.run_get, pure_bind]
      cases w.going (w.poll k) with
      | false => rfl
      | true =>
          simp only [Bool.not_true, Bool.false_eq_true, ↓reduceIte, StateT.run_bind,
            StateT.run_modify, StateT.run_modifyGet, pure_bind]
          show _ = if next + interval - w.time (w.tick (w.poll k)) < -interval then _ else _
          split <;> rfl

variable {w}

/-- A turn that is made to its end polls the operator, makes a frame, and then looks at the
clock. -/
theorem turn_some (h : (w.pace.turn interval next).run before = (some later, after)) :
    let checked := w.read (w.tick (w.poll before))
    let delay := next + interval - w.checked before
    w.Late interval next before ∧ later = w.time checked ∧
        after = w.sleep delay (w.read checked) ∨
      ¬ w.Late interval next before ∧ later = next + interval ∧
        after = w.sleep delay checked := by
  rw [turn_eq] at h
  split at h
  · split at h
    · by_cases hlate : w.Late interval next before
      · rw [if_pos hlate] at h
        obtain ⟨hlater, hafter⟩ := Prod.mk.inj h
        exact Or.inl ⟨hlate, (Option.some.inj hlater).symm, hafter.symm⟩
      · rw [if_neg hlate] at h
        obtain ⟨hlater, hafter⟩ := Prod.mk.inj h
        exact Or.inr ⟨hlate, (Option.some.inj hlater).symm, hafter.symm⟩
    · cases h
  · cases h

/-! ### Turn after turn -/

/-- The turn with a number begins with a deadline and in a state. -/
inductive Begins (w : World κ) (interval : ℚ) (k : κ) : Nat → ℚ → κ → Prop
  | first : Begins w interval k 0 (w.time k) (w.read k)
  | next {i : Nat} {next later : ℚ} {before after : κ} (begins : Begins w interval k i next before)
      (turns : (w.pace.turn interval next).run before = (some later, after)) :
      Begins w interval k (i + 1) later after

/-- The sleep of a turn that is not late lasts until its deadline, and that of one that is late
does not bring the clock back behind the new deadline. -/
theorem Steady.reaches (steady : w.Steady)
    (h : (w.pace.turn interval next).run before = (some later, after)) :
    later ≤ w.time after := by
  have hread := steady.read (w.tick (w.poll before))
  rcases turn_some h with ⟨-, rfl, rfl⟩ | ⟨-, rfl, rfl⟩
  · exact (steady.read _).trans (steady.sleep _ _)
  · by_cases hdelay : 0 < next + interval - w.checked before
    · have hslept := steady.slept _ (w.read (w.tick (w.poll before))) hdelay
      have hchecked : w.checked before ≤ w.time (w.read (w.tick (w.poll before))) := hread
      linarith
    · have hsleep := steady.sleep (next + interval - w.checked before)
        (w.read (w.tick (w.poll before)))
      have hchecked : w.checked before ≤ w.time (w.read (w.tick (w.poll before))) := hread
      linarith

/-- The next deadline is at least one interval later. -/
theorem Steady.advances (steady : w.Steady) (positive : 0 < interval)
    (h : (w.pace.turn interval next).run before = (some later, after)) :
    next + interval ≤ later := by
  rcases turn_some h with ⟨hlate, rfl, -⟩ | ⟨-, rfl, -⟩
  · have hread : w.checked before ≤ w.time (w.read (w.tick (w.poll before))) := steady.read _
    rw [Late] at hlate
    linarith
  · exact le_refl _

/-- The next deadline is at most one interval behind the time that was read. -/
theorem Steady.lags (steady : w.Steady) (positive : 0 < interval)
    (h : (w.pace.turn interval next).run before = (some later, after)) :
    w.checked before - interval ≤ later := by
  rcases turn_some h with ⟨-, rfl, -⟩ | ⟨hprompt, rfl, -⟩
  · have hread : w.checked before ≤ w.time (w.read (w.tick (w.poll before))) := steady.read _
    linarith
  · rw [Late, not_lt] at hprompt
    linarith

/-- When a turn begins, its deadline has come, and that is not before its place in an even row. -/
theorem Begins.due (h : w.Begins interval k i next before) (steady : w.Steady)
    (positive : 0 < interval) :
    next ≤ w.time before ∧ w.time k + i * interval ≤ next := by
  induction h with
  | first => exact ⟨steady.read k, by norm_num⟩
  | @next i next later before after begins turns ih =>
      refine ⟨steady.reaches turns, ?_⟩
      have hlater := steady.advances positive turns
      push_cast
      linarith [ih.2]

/-- Where no turn was late, the deadlines stand in an even row. -/
theorem Begins.even (h : w.Begins interval k i next before)
    (prompt : ∀ j < i, ∀ next before, w.Begins interval k j next before →
      ¬ w.Late interval next before) :
    next = w.time k + i * interval := by
  induction h with
  | first => norm_num
  | @next i next later before after begins turns ih =>
      have hnext := ih fun j hj => prompt j (by omega)
      rcases turn_some turns with ⟨hlate, -, -⟩ | ⟨-, rfl, -⟩
      · exact absurd hlate (prompt i (by omega) next before begins)
      · rw [hnext]
        push_cast
        linarith

/-- A run makes one turn after the other, until one of them ends it or there were as many as it may
make. -/
theorem run_begins (interval : ℚ) (k : κ) (bound : Nat) :
    (∃ next after, w.Begins interval k bound next after ∧
        (w.pace.run interval bound).run k = (false, after)) ∨
      ∃ i < bound, ∃ next before ended, w.Begins interval k i next before ∧
        (w.pace.turn interval next).run before = (none, ended) ∧
        (w.pace.run interval bound).run k = (true, ended) := by
  have hturns : ∀ n i next before, w.Begins interval k i next before →
      (∃ later after, w.Begins interval k (i + n) later after ∧
          (w.pace.turns interval n next).run before = (false, after)) ∨
        ∃ j < i + n, ∃ later between ended, w.Begins interval k j later between ∧
          (w.pace.turn interval later).run between = (none, ended) ∧
          (w.pace.turns interval n next).run before = (true, ended) := by
    intro n
    induction n with
    | zero => intro i next before hbegins; exact Or.inl ⟨next, before, hbegins, rfl⟩
    | succ n ih =>
        intro i next before hbegins
        rw [Pace.turns, StateT.run_bind]
        cases hturn : (w.pace.turn interval next).run before with
        | mk answer after =>
            cases answer with
            | none => exact Or.inr ⟨i, by omega, next, before, after, hbegins, hturn, rfl⟩
            | some later =>
                have hrest := ih (i + 1) later after (hbegins.next hturn)
                rwa [Nat.add_right_comm] at hrest
  have hrun := hturns bound 0 (w.time k) (w.read k) .first
  rwa [Nat.zero_add] at hrun

/-- **A run keeps its pace.**  Let the clock not go back, and let a sleep last as long as it was
told to; polls and frames may take any time.  A run is then a row of turns.  In the turn `i` the
frame does not start before `i` intervals have gone by since the run began.  When it is over, the
next deadline is not more than one interval behind the time that is read then, so that however long
a frame took, no more than one interval is ever made up for.  As long as no turn was found to be
late, the deadlines stand in an even row, and no error adds up. -/
theorem run_keeps_pace (steady : w.Steady) (positive : 0 < interval) (k : κ) :
    (∀ bound,
      (∃ next after, w.Begins interval k bound next after ∧
          (w.pace.run interval bound).run k = (false, after)) ∨
        ∃ i < bound, ∃ next before ended, w.Begins interval k i next before ∧
          (w.pace.turn interval next).run before = (none, ended) ∧
          (w.pace.run interval bound).run k = (true, ended)) ∧
    ∀ i next before, w.Begins interval k i next before →
      ((∀ j < i, ∀ next before, w.Begins interval k j next before →
          ¬ w.Late interval next before) →
        next = w.time k + i * interval) ∧
      ∀ later after, (w.pace.turn interval next).run before = (some later, after) →
        w.time k + i * interval ≤ w.started before ∧
        w.checked before - interval ≤ later := by
  refine ⟨run_begins interval k, ?_⟩
  intro i next before hbegins
  refine ⟨hbegins.even, ?_⟩
  intro later after hturn
  obtain ⟨hreached, hdue⟩ := hbegins.due steady positive
  exact ⟨hdue.trans (hreached.trans (steady.poll before)), steady.lags positive hturn⟩

/-- A clock and a count of frames, of which the second takes five seconds and every other one half
a second. -/
def oneSlow : World (ℚ × Nat) :=
  { time := Prod.fst
    read := id
    sleep := fun time k => (k.1 + max 0 time, k.2)
    poll := id
    tick := fun k => (k.1 + if k.2 = 1 then 5 else 1 / 2, k.2 + 1)
    going := fun k => k.2 < 4 }

theorem steady_oneSlow : oneSlow.Steady where
  read := fun _ => le_refl _
  sleep := fun time k => le_add_of_nonneg_right (le_max_left 0 time)
  slept := fun time k _ => add_le_add_right (le_max_right 0 time) k.1
  poll := fun _ => le_refl _
  tick := by
    intro k
    refine le_add_of_nonneg_right ?_
    split <;> norm_num

theorem going_oneSlow {k : ℚ × Nat} (h : k.2 < 4) :
    oneSlow.going k = true ∧ oneSlow.going (oneSlow.poll k) = true :=
  ⟨decide_eq_true h, decide_eq_true h⟩

/-- The first frame is in time. -/
theorem turn_oneSlow_prompt : (oneSlow.pace.turn 1 100).run (100, 0) = (some 101, (101, 1)) := by
  have hprompt : ¬ oneSlow.Late 1 100 (100, 0) := by norm_num [Late, checked, oneSlow]
  obtain ⟨hgoes, hstays⟩ := going_oneSlow (k := (100, 0)) (by decide)
  simp only [turn_eq, hgoes, hstays, hprompt, ↓reduceIte]
  norm_num [checked, oneSlow]

/-- The second one ends five intervals after it was due. -/
theorem turn_oneSlow_late : (oneSlow.pace.turn 1 101).run (101, 1) = (some 106, (106, 2)) := by
  have hlate : oneSlow.Late 1 101 (101, 1) := by norm_num [Late, checked, oneSlow]
  obtain ⟨hgoes, hstays⟩ := going_oneSlow (k := (101, 1)) (by decide)
  simp only [turn_eq, hgoes, hstays, hlate, ↓reduceIte]
  norm_num [checked, oneSlow]

/-- The frame after the slow one has its deadline where the slow one ended, and starts no earlier
than two intervals after the first. -/
theorem oneSlow_keeps_pace :
    oneSlow.Steady ∧ (0 : ℚ) < 1 ∧ oneSlow.Begins 1 (100, 0) 2 106 (106, 2) ∧
      (oneSlow.pace.turn 1 101).run (101, 1) = (some 106, (106, 2)) ∧
      oneSlow.checked (101, 1) - 1 ≤ 106 ∧ (100 : ℚ) + (1 : Nat) * 1 ≤ oneSlow.started (101, 1) := by
  have hbegins : oneSlow.Begins 1 (100, 0) 1 101 (101, 1) := .next .first turn_oneSlow_prompt
  obtain ⟨-, hturns⟩ := run_keeps_pace steady_oneSlow one_pos (100, 0)
  obtain ⟨hstarts, hlags⟩ := (hturns 1 101 (101, 1) hbegins).2 106 (106, 2) turn_oneSlow_late
  exact ⟨steady_oneSlow, one_pos, hbegins.next turn_oneSlow_late, turn_oneSlow_late, hlags,
    hstarts⟩

end World

end ChipEight.Pace
