/-
Numbers are read back from hexadecimal text.

`natural?` reads digits from left to right, sixteen times what was read so far and the value of
the next; `integer?` takes a minus sign in front.  Both undo what is written: `natural?_digits`
and `integer?_signed`.  They hold of numbers of every size, and a field that is too narrow for its
number is no exception, since it gives way to it.

The induction is on the number and follows the digits from the right: all but the last are those
of a sixteenth of it (`digits_eq`).
-/
import Mathlib.Data.Nat.Init
import ChipEight.Text.Hexadecimal

namespace ChipEight.Text.Hex

/-- The sixteen digits, each at the place of its value. -/
def alphabet : List Char :=
  ['0', '1', '2', '3', '4', '5', '6', '7', '8', '9', 'A', 'B', 'C', 'D', 'E', 'F']

/-! ### Reading -/

/-- The value of a digit. -/
def digit? (c : Char) : Option Nat := alphabet.idxOf? c

/-- The number with some digits, the most significant first.  There has to be one. -/
def natural? (text : List Char) : Option Nat :=
  if text = [] then none else text.foldlM (fun n c => (digit? c).map (16 * n + ·)) 0

/-- The number with some digits, behind a minus sign if there is one. -/
def integer? : List Char → Option Int
  | '-' :: text => (natural? text).map fun n : Nat => -(n : Int)
  | text => (natural? text).map fun n : Nat => (n : Int)

/-! ### Digits -/

variable {n : Nat} {c : Char} {text : List Char}

/-- The digit of a value. -/
def symbol (value : Nat) : Char := value.digitChar.toUpper

theorem digit?_symbol (h : n < 16) : digit? (symbol n) = some n := by
  revert n
  decide

theorem symbol_mem (h : n < 16) : symbol n ∈ alphabet := by
  revert n
  decide

/-- The last digit is that of the remainder, and before it are the digits of the quotient. -/
theorem digits_eq (n : Nat) :
    digits n = if n < 16 then [symbol n] else digits (n / 16) ++ [symbol (n % 16)] := by
  rw [digits, Nat.toDigits_eq_if (by decide)]
  by_cases h : n < 16
  · simp [h, symbol]
  · simp [h, symbol, digits]

theorem digits_ne_nil (n : Nat) : digits n ≠ [] := by
  rw [digits_eq]
  split <;> simp

theorem mem_alphabet_of_mem_digits (h : c ∈ digits n) : c ∈ alphabet := by
  induction n using Nat.strong_induction_on with
  | _ n ih =>
      rw [digits_eq] at h
      by_cases hn : n < 16
      · rw [if_pos hn, List.mem_singleton] at h
        rw [h]
        exact symbol_mem hn
      · rw [if_neg hn, List.mem_append, List.mem_singleton] at h
        rcases h with h | h
        · exact ih (n / 16) (by omega) h
        · rw [h]
          exact symbol_mem (Nat.mod_lt n (by decide))

/-! ### Round trips -/

theorem natural?_concat (hne : text ≠ []) (c : Char) :
    natural? (text ++ [c]) = (natural? text).bind fun n => (digit? c).map (16 * n + ·) := by
  rw [natural?, if_neg (by simp), natural?, if_neg hne, List.foldlM_append]
  simp

/-- Digits tell their number. -/
theorem natural?_digits (n : Nat) : natural? (digits n) = some n := by
  induction n using Nat.strong_induction_on with
  | _ n ih =>
      rw [digits_eq]
      by_cases hn : n < 16
      · simp [hn, natural?, digit?_symbol hn]
      · have hlast : digit? (symbol (n % 16)) = some (n % 16) :=
          digit?_symbol (Nat.mod_lt n (by decide))
        rw [if_neg hn, natural?_concat (digits_ne_nil _), ih (n / 16) (by omega), hlast]
        simp [Nat.div_add_mod]

theorem integer?_of_digits : integer? (digits n) = some (n : Int) := by
  -- the first digit is no minus sign
  obtain ⟨c, text, htext⟩ := List.exists_cons_of_ne_nil (digits_ne_nil n)
  have hmem : c ∈ alphabet := mem_alphabet_of_mem_digits (n := n) (by simp [htext])
  have hsign : c ≠ '-' := fun h => absurd (h ▸ hmem) (by decide)
  have hread := natural?_digits n
  rw [htext] at hread ⊢
  unfold integer?
  split
  · rename_i heq
    exact absurd (List.cons.inj heq).1 hsign
  · rw [hread]
    rfl

/-- Digits and sign tell their number. -/
theorem integer?_signed (n : Int) : integer? (signed n) = some n := by
  by_cases hn : n < 0
  · have habs : -(n.natAbs : Int) = n := by omega
    rw [signed, if_pos hn]
    show (natural? (digits n.natAbs)).map (fun m : Nat => -(m : Int)) = some n
    rw [natural?_digits, Option.map_some, habs]
  · have habs : (n.natAbs : Int) = n := by omega
    rw [signed, if_neg hn, integer?_of_digits, habs]

example : integer? ['-', '1', 'F'] = some (-31) := rfl

theorem signed_ne_nil (n : Int) : signed n ≠ [] := by
  by_cases hn : n < 0
  · simp [signed, hn]
  · simp [signed, hn, digits_ne_nil]

theorem mem_of_mem_signed {n : Int} (h : c ∈ signed n) : c = '-' ∨ c ∈ alphabet := by
  by_cases hn : n < 0
  · rw [signed, if_pos hn] at h
    rcases List.mem_cons.1 h with h | h
    · exact Or.inl h
    · exact Or.inr (mem_alphabet_of_mem_digits h)
  · rw [signed, if_neg hn] at h
    exact Or.inr (mem_alphabet_of_mem_digits h)

end ChipEight.Text.Hex
