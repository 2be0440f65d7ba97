/-
What a snapshot of the keys shows.

A key is *noticed* by the next latch if it is down, or went down since the last one.  Keys going
down and up cannot undo the second of these: only a latch forgets a tap.
-/
import Mathlib.Data.List.FinRange
import ChipEight.Keypad

namespace ChipEight.Keypad

variable {k : Keypad} {key : Key}

/-- A key is down, or went down since the last latch. -/
def Noticed (k : Keypad) (key : Key) : Prop := k.held.get key = true ∨ k.tapped.get key = true

instance (k : Keypad) (key : Key) : Decidable (k.Noticed key) :=
  inferInstanceAs (Decidable (_ ∨ _))

/-- A latch shows what it noticed. -/
theorem get_latch_iff : k.latch.latched.get key = true ↔ k.Noticed key := by
  have hget : k.latch.latched.get key = (k.held.get key || k.tapped.get key) :=
    Vector.getElem_zipWith key.isLt
  rw [hget, Bool.or_eq_true, Noticed]

theorem get_latch_eq_false_iff : k.latch.latched.get key = false ↔ ¬ k.Noticed key := by
  rw [← get_latch_iff, Bool.not_eq_true]

theorem tapped_press (n : Int) : (k.setKey n true).tapped.get (Key.ofInt n) = true :=
  Vector.getElem_set_self (Key.ofInt n).isLt

theorem tapped_setKey (n : Int) (down : Bool) (h : k.tapped.get key = true) :
    (k.setKey n down).tapped.get key = true := by
  cases down with
  | false => exact h
  | true =>
      by_cases hsame : Key.ofInt n = key
      · rw [← hsame]
        exact tapped_press n
      · have hne : (Key.ofInt n : Nat) ≠ key := fun h => hsame (Fin.ext h)
        have hget : (k.setKey n true).tapped.get key = k.tapped.get key :=
          Vector.getElem_set_ne (Key.ofInt n).isLt key.isLt hne
        rw [hget, h]

/-- The lowest key of the snapshot, if it shows one. -/
theorem activeKey?_eq_some_iff :
    k.activeKey? = some key ↔
      k.latched.get key = true ∧ ∀ other < key, k.latched.get other = false := by
  rw [activeKey?, List.find?_eq_some_iff_getElem]
  constructor
  · rintro ⟨hkey, i, hi, hfound, hbefore⟩
    refine ⟨hkey, ?_⟩
    intro other hother
    rw [List.getElem_finRange] at hfound
    have hlt : (other : Nat) < i := by
      rw [← hfound] at hother
      exact hother
    simpa using hbefore other hlt
  · rintro ⟨hkey, hbefore⟩
    refine ⟨hkey, key, by simp, by simp, ?_⟩
    intro j hj
    simpa using hbefore ⟨j, by omega⟩ hj

theorem activeKey?_eq_none_iff : k.activeKey? = none ↔ ∀ key, k.latched.get key = false := by
  simp [activeKey?]

theorem activeKey?_latch_eq_some_iff :
    k.latch.activeKey? = some key ↔ k.Noticed key ∧ ∀ other < key, ¬ k.Noticed other := by
  simp only [activeKey?_eq_some_iff, get_latch_iff, get_latch_eq_false_iff]

theorem activeKey?_latch_eq_none_iff :
    k.latch.activeKey? = none ↔ ∀ key, ¬ k.Noticed key := by
  simp only [activeKey?_eq_none_iff, get_latch_eq_false_iff]

/-- No key is noticed, or one of them is the lowest. -/
theorem unnoticed_or_lowest (k : Keypad) :
    (∀ key, ¬ k.Noticed key) ∨ ∃ key, k.Noticed key ∧ ∀ other < key, ¬ k.Noticed other := by
  cases hactive : k.latch.activeKey? with
  | none => exact Or.inl (activeKey?_latch_eq_none_iff.1 hactive)
  | some key => exact Or.inr ⟨key, activeKey?_latch_eq_some_iff.1 hactive⟩

/-- A latch that notices nothing empties the snapshot, and changes nothing else. -/
theorem latch_of_unnoticed (h : ∀ key, ¬ k.Noticed key) :
    k.latch = { k with latched := Vector.replicate 16 false } := by
  have hlatched : k.latch.latched = Vector.replicate 16 false := by
    ext i hi
    rw [Vector.getElem_replicate]
    exact get_latch_eq_false_iff.2 (h ⟨i, hi⟩)
  have htapped : k.tapped = Vector.replicate 16 false := by
    ext i hi
    rw [Vector.getElem_replicate, ← Bool.not_eq_true]
    exact fun htapped => h ⟨i, hi⟩ (Or.inr htapped)
  rw [← hlatched, latch, ← htapped]

end ChipEight.Keypad
