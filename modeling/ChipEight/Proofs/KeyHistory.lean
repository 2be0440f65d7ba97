/-
What a keypad tells of its history.

A snapshot is taken from two rows of flags, and each of them forgets at a time of its own: whether
a key is down is known until the next reset, and that it was tapped until the next latch.  Here
both are read off the whole history of a keypad.  `HeldAfter` looks at the last that happened to a
key since the reset, and `TappedAfter` looks for a press since the latch; a latch shows a key if
one of them holds, and shows nothing else.

The keys do not get in each other's way.  What becomes of one of them is decided by what happened
to it, and by the latches and resets, which happen to all (`stateOf_filter`).  So events of
different keys may come in any order.
-/
import Mathlib.Data.List.DropRight
import ChipEight.Proofs.Keys

namespace ChipEight.Keypad

/-! ### Events -/

/-- Something that happens to a keypad. -/
inductive Event where
  /-- The key of a number goes down or up. -/
  | set (number : Int) (down : Bool)
  | latch
  | reset
  deriving DecidableEq, Repr

namespace Event

/-- Whether a key is down after the event, if it is the one that goes down or up. -/
def moves? (key : Key) : Event → Option Bool
  | set number down => if Key.ofInt number = key then some down else none
  | latch => none
  | reset => none

/-- The event happens to a key. -/
def Concerns (key : Key) : Event → Prop
  | set number _ => Key.ofInt number = key
  | latch => True
  | reset => True

instance (key : Key) : (e : Event) → Decidable (e.Concerns key)
  | set number _ => inferInstanceAs (Decidable (Key.ofInt number = key))
  | latch => inferInstanceAs (Decidable True)
  | reset => inferInstanceAs (Decidable True)

/-- A key goes down or up. -/
def IsMove (e : Event) : Prop := e ≠ .latch ∧ e ≠ .reset

instance (e : Event) : Decidable e.IsMove := inferInstanceAs (Decidable (_ ∧ _))

end Event

/-- The keypad after an event. -/
def apply (k : Keypad) : Event → Keypad
  | .set number down => k.setKey number down
  | .latch => k.latch
  | .reset => released

/-- The keypad after some events, one after the other. -/
def after (k : Keypad) (events : List Event) : Keypad := events.foldl apply k

variable {k other : Keypad} {key : Key} {events : List Event} {e : Event}

theorem after_concat : k.after (events ++ [e]) = (k.after events).apply e :=
  List.foldl_concat apply k e events

/-! ### Reading a history -/

/-- What happened since the last reset. -/
def sinceReset (events : List Event) : List Event := events.rtakeWhile (· ≠ .reset)

/-- What happened since the last latch, or since the last reset if that came later. -/
def sinceLatch (events : List Event) : List Event := events.rtakeWhile (·.IsMove)

/-- The last that happened to a key since the last reset is that it went down. -/
def HeldAfter (events : List Event) (key : Key) : Prop :=
  ((sinceReset events).filterMap (Event.moves? key)).getLast? = some true

/-- A key went down since the last latch or reset. -/
def TappedAfter (events : List Event) (key : Key) : Prop :=
  ∃ e ∈ sinceLatch events, e.moves? key = some true

instance (events : List Event) (key : Key) : Decidable (HeldAfter events key) :=
  inferInstanceAs (Decidable (_ = _))

instance (events : List Event) (key : Key) : Decidable (TappedAfter events key) :=
  inferInstanceAs (Decidable (∃ e ∈ _, _))

theorem heldAfter_set (n : Int) (down : Bool) :
    HeldAfter (events ++ [.set n down]) key ↔
      if Key.ofInt n = key then down = true else HeldAfter events key := by
  have hsince : sinceReset (events ++ [.set n down]) = sinceReset events ++ [.set n down] :=
    List.rtakeWhile_concat_pos _ _ _ (by simp)
  rw [HeldAfter, hsince, List.filterMap_append]
  by_cases hkey : Key.ofInt n = key
  · simp [Event.moves?, hkey]
  · simp [Event.moves?, hkey, HeldAfter]

theorem heldAfter_latch : HeldAfter (events ++ [.latch]) key ↔ HeldAfter events key := by
  have hsince : sinceReset (events ++ [.latch]) = sinceReset events ++ [.latch] :=
    List.rtakeWhile_concat_pos _ _ _ (by simp)
  rw [HeldAfter, hsince, List.filterMap_append]
  simp [Event.moves?, HeldAfter]

theorem not_heldAfter_reset : ¬ HeldAfter (events ++ [.reset]) key := by
  have hsince : sinceReset (events ++ [.reset]) = [] :=
    List.rtakeWhile_concat_neg _ _ _ (by simp)
  rw [HeldAfter, hsince]
  simp

theorem tappedAfter_set (n : Int) (down : Bool) :
    TappedAfter (events ++ [.set n down]) key ↔
      TappedAfter events key ∨ Key.ofInt n = key ∧ down = true := by
  have hsince : sinceLatch (events ++ [.set n down]) = sinceLatch events ++ [.set n down] :=
    List.rtakeWhile_concat_pos _ _ _ (by simp [Event.IsMove])
  rw [TappedAfter, hsince]
  simp [Event.moves?, TappedAfter, or_and_right, exists_or]

/-- Latches and resets forget every tap. -/
theorem not_tappedAfter (h : ¬ e.IsMove) : ¬ TappedAfter (events ++ [e]) key := by
  have hsince : sinceLatch (events ++ [e]) = [] :=
    List.rtakeWhile_concat_neg _ _ _ (by simpa using h)
  rw [TappedAfter, hsince]
  simp

/-! ### What the flags say -/

theorem held_setKey (n : Int) (down : Bool) :
    (k.setKey n down).held.get key = if Key.ofInt n = key then down else k.held.get key := by
  have hget : (k.setKey n down).held.get key =
      if (Key.ofInt n : Nat) = key then down else k.held.get key :=
    Vector.getElem_set (Key.ofInt n).isLt key.isLt
  rw [hget]
  simp only [Fin.ext_iff]

theorem tapped_setKey_iff (n : Int) (down : Bool) :
    (k.setKey n down).tapped.get key = true ↔
      k.tapped.get key = true ∨ Key.ofInt n = key ∧ down = true := by
  cases down with
  | false => simp [setKey]
  | true =>
      have hget : (k.setKey n true).tapped.get key =
          if (Key.ofInt n : Nat) = key then true else k.tapped.get key :=
        Vector.getElem_set (Key.ofInt n).isLt key.isLt
      rw [hget]
      by_cases hkey : Key.ofInt n = key
      · simp [hkey]
      · simp [hkey, Fin.ext_iff.not.1 hkey]

@[simp] theorem held_released : released.held.get key = false :=
  Vector.getElem_replicate key.isLt

@[simp] theorem tapped_released : released.tapped.get key = false :=
  Vector.getElem_replicate key.isLt

@[simp] theorem latched_released : released.latched.get key = false :=
  Vector.getElem_replicate key.isLt

theorem held_after_iff :
    (released.after events).held.get key = true ↔ HeldAfter events key := by
  induction events using List.reverseRecOn with
  | nil => simp [after, HeldAfter, sinceReset]
  | append_singleton events e ih =>
      rw [after_concat]
      cases e with
      | set n down =>
          rw [apply, held_setKey, heldAfter_set]
          split
          · rfl
          · exact ih
      | latch =>
          rw [heldAfter_latch, ← ih]
          rfl
      | reset => simp [apply, not_heldAfter_reset]

theorem tapped_after_iff :
    (released.after events).tapped.get key = true ↔ TappedAfter events key := by
  induction events using List.reverseRecOn with
  | nil => simp [after, TappedAfter, sinceLatch]
  | append_singleton events e ih =>
      rw [after_concat]
      cases e with
      | set n down => rw [apply, tapped_setKey_iff, tappedAfter_set, ih]
      | latch =>
          have hforgotten : (released.after events).latch.tapped.get key = false :=
            Vector.getElem_replicate key.isLt
          simp [apply, hforgotten, not_tappedAfter, Event.IsMove]
      | reset => simp [apply, not_tappedAfter, Event.IsMove]

/-- What the next latch is going to show. -/
theorem noticed_after_iff :
    (released.after events).Noticed key ↔ HeldAfter events key ∨ TappedAfter events key := by
  rw [Noticed, held_after_iff, tapped_after_iff]

/-- Keys that go down and up leave the snapshot alone. -/
theorem latched_after (h : ∀ e ∈ events, e.IsMove) : (k.after events).latched = k.latched := by
  refine List.foldlRecOn (motive := fun d => d.latched = k.latched) events apply rfl ?_
  intro d hd e he
  cases e with
  | set n down => exact hd
  | latch => exact absurd rfl (h _ he).1
  | reset => exact absurd rfl (h _ he).2

/-! ### One key at a time -/

/-- All that a keypad knows of one key. -/
def stateOf (k : Keypad) (key : Key) : Bool × Bool × Bool :=
  (k.held.get key, k.tapped.get key, k.latched.get key)

theorem eq_of_stateOf (h : ∀ key, other.stateOf key = k.stateOf key) : other = k := by
  obtain ⟨held, tapped, latched⟩ := k
  obtain ⟨held', tapped', latched'⟩ := other
  simp only [stateOf, Prod.mk.injEq] at h
  congr 1
  · ext i hi
    exact (h ⟨i, hi⟩).1
  · ext i hi
    exact (h ⟨i, hi⟩).2.1
  · ext i hi
    exact (h ⟨i, hi⟩).2.2

/-- What happens to other keys leaves a key alone. -/
theorem stateOf_apply_of_not_concerns (h : ¬ e.Concerns key) :
    (k.apply e).stateOf key = k.stateOf key := by
  cases e with
  | set n down =>
      have hother : ¬ Key.ofInt n = key := h
      have htapped : (k.setKey n down).tapped.get key = k.tapped.get key := by
        rw [Bool.eq_iff_iff, tapped_setKey_iff]
        simp [hother]
      rw [apply, stateOf, held_setKey, if_neg hother, htapped]
      rfl
  | latch => exact absurd trivial h
  | reset => exact absurd trivial h

/-- What an event makes of a key depends on nothing else than that key. -/
theorem stateOf_apply (e : Event) (h : other.stateOf key = k.stateOf key) :
    (other.apply e).stateOf key = (k.apply e).stateOf key := by
  simp only [stateOf, Prod.mk.injEq] at h
  obtain ⟨hheld, htapped, hlatched⟩ := h
  cases e with
  | set n down =>
      have htapped' : (other.setKey n down).tapped.get key = (k.setKey n down).tapped.get key := by
        rw [Bool.eq_iff_iff, tapped_setKey_iff, tapped_setKey_iff, htapped]
      rw [apply, apply, stateOf, stateOf, held_setKey, held_setKey, hheld, htapped']
      exact congrArg (fun shown => (_, _, shown)) hlatched
  | latch =>
      have hnoticed : other.latch.latched.get key = k.latch.latched.get key := by
        rw [Bool.eq_iff_iff, get_latch_iff, get_latch_iff, Noticed, Noticed, hheld, htapped]
      rw [apply, apply, stateOf, stateOf, hnoticed]
      exact congrArg (fun down => (down, _, _)) hheld
  | reset => rfl

/-- What becomes of a key is told by what happened to it. -/
theorem stateOf_filter (key : Key) (events : List Event) :
    (k.after (events.filter (·.Concerns key))).stateOf key = (k.after events).stateOf key := by
  induction events using List.reverseRecOn with
  | nil => rfl
  | append_singleton events e ih =>
      rw [List.filter_append, after_concat]
      by_cases hkey : e.Concerns key
      · rw [List.filter_cons_of_pos (by simpa using hkey), List.filter_nil, after_concat]
        exact stateOf_apply e ih
      · rw [List.filter_cons_of_neg (by simpa using hkey), List.filter_nil, List.append_nil, ih,
          stateOf_apply_of_not_concerns hkey]

/-! ### The law -/

/-- **A snapshot tells the history of the keys.**  Right after a latch it shows a key if and only if
the last that happened to that key since the last reset is that it went down, or it went down at
all since the latch before, or since the reset if that came later.  Until the next latch nothing
changes it but a reset, which empties it.  The active key is the lowest that is shown.  And no key
depends on another: keypads to which the same happened, as far as one key is concerned, agree
about that key, so that they are the same if that holds of every key. -/
theorem snapshot_tells_history (events : List Event) :
    (∀ n, (released.after (events ++ [.latch])).isPressed n = true ↔
      HeldAfter events (Key.ofInt n) ∨ TappedAfter events (Key.ofInt n)) ∧
    ((∀ later, (∀ e ∈ later, e.IsMove) →
        (released.after (events ++ later)).latched = (released.after events).latched) ∧
      ∀ n, (released.after (events ++ [.reset])).isPressed n = false) ∧
    ((∀ key, (released.after (events ++ [.latch])).activeKey? = some key ↔
        (HeldAfter events key ∨ TappedAfter events key) ∧
          ∀ lower < key, ¬ (HeldAfter events lower ∨ TappedAfter events lower)) ∧
      ((released.after (events ++ [.latch])).activeKey? = none ↔
        ∀ key, ¬ (HeldAfter events key ∨ TappedAfter events key))) ∧
    ∀ (k : Keypad) (events' : List Event),
      (∀ key, events'.filter (·.Concerns key) = events.filter (·.Concerns key) →
        (k.after events').stateOf key = (k.after events).stateOf key) ∧
      ((∀ key, events'.filter (·.Concerns key) = events.filter (·.Concerns key)) →
        k.after events' = k.after events) := by
  have hlatch : released.after (events ++ [.latch]) = (released.after events).latch := after_concat
  have hsame : ∀ (k : Keypad) (events' : List Event) (key : Key),
      events'.filter (·.Concerns key) = events.filter (·.Concerns key) →
        (k.after events').stateOf key = (k.after events).stateOf key := by
    intro k events' key hfilter
    rw [← stateOf_filter key events', hfilter, stateOf_filter]
  refine ⟨?_, ⟨?_, ?_⟩, ⟨?_, ?_⟩, ?_⟩
  · intro n
    rw [hlatch, isPressed, get_latch_iff, noticed_after_iff]
  · intro later hmoves
    rw [after, List.foldl_append]
    exact latched_after hmoves
  · intro n
    rw [after_concat]
    exact latched_released
  · intro key
    simp only [hlatch, activeKey?_latch_eq_some_iff, noticed_after_iff]
  · simp only [hlatch, activeKey?_latch_eq_none_iff, noticed_after_iff]
  · intro k events'
    exact ⟨hsame k events', fun hall => eq_of_stateOf fun key => hsame k events' key (hall key)⟩

/-- Of a key that is held and one that was tapped, both are shown by the next latch, and the lower
one is active.  Until then the snapshot stays as it was, and it would have made no difference if
the second key had been tapped before the first went down. -/
theorem held_and_tapped_shown :
    (released.after ([.set 3 true, .set 21 true, .set 5 false] ++ [.latch])).isPressed 5 = true ∧
      (released.after ([.set 3 true, .set 21 true, .set 5 false] ++ [.latch])).activeKey? =
        some 3 ∧
      (released.after ([.set 3 true, .set 21 true, .set 5 false] ++ [.set 3 false])).latched =
        (released.after [.set 3 true, .set 21 true, .set 5 false]).latched ∧
      released.after [.set 21 true, .set 5 false, .set 3 true] =
        released.after [.set 3 true, .set 21 true, .set 5 false] := by
  obtain ⟨hpressed, ⟨hkept, -⟩, ⟨hactive, -⟩, hsame⟩ :=
    snapshot_tells_history [.set 3 true, .set 21 true, .set 5 false]
  exact ⟨(hpressed 5).2 (by decide), (hactive 3).2 (by decide), hkept [.set 3 false] (by decide),
    (hsame released _).2 (by decide)⟩

end ChipEight.Keypad
