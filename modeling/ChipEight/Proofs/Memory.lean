/-
What an access to memory needs, and what it leaves.

Every access asks `checkRange` first and cannot fail after that.  So its success says
that the whole range lies inside, and its fault is always `outOfBounds`.  Writing puts
bytes in place of bytes: no write makes a memory longer or shorter.
-/
import Mathlib.Data.List.GetD
import ChipEight.Font

namespace ChipEight.Memory

variable {m : Memory} {address length : Int} {fault : Fault}

theorem size_blank (size : Nat) : (blank size).size = size := Array.size_replicate

/-! ### Ranges -/

/-- All addresses of a range are those of a byte. -/
def Inside (m : Memory) (address length : Int) : Prop :=
  0 ≤ address ∧ address + length ≤ m.size

instance (m : Memory) (address length : Int) : Decidable (m.Inside address length) :=
  inferInstanceAs (Decidable (_ ∧ _))

/-- The address that is blamed for a range that is not inside: the first where that is outside
itself, and otherwise the last. -/
def blamed (m : Memory) (address length : Int) : Int :=
  if address < 0 ∨ m.size ≤ address then address else address + length - 1

theorem checkRange_eq (hlength : 0 < length) :
    m.checkRange address length =
      if m.Inside address length then .ok ()
      else .error (.outOfBounds (m.blamed address length) m.size) := by
  by_cases hinside : m.Inside address length
  · rw [if_pos hinside]
    unfold Inside at hinside
    rw [checkRange, if_neg (by omega), if_neg (by omega)]
  · rw [if_neg hinside]
    unfold Inside at hinside
    by_cases hfirst : address < 0 ∨ (m.size : Int) ≤ address
    · rw [checkRange, if_pos hfirst, blamed, if_pos hfirst]
    · rw [checkRange, if_neg hfirst, if_pos (by omega), blamed, if_neg hfirst]

/-- An access that asks first gives its value, or the fault of its range. -/
theorem checked_eq {α : Type} {value : α} (hlength : 0 < length) :
    (m.checkRange address length >>= fun _ => pure value) =
      if m.Inside address length then .ok value
      else .error (.outOfBounds (m.blamed address length) m.size) := by
  rw [checkRange_eq hlength]
  split <;> rfl

theorem checked_error_iff {α : Type} {value : α} (hlength : 0 < length) :
    (m.checkRange address length >>= fun _ => pure value) = .error fault ↔
      ¬ m.Inside address length ∧ fault = .outOfBounds (m.blamed address length) m.size := by
  rw [checked_eq hlength]
  by_cases hinside : m.Inside address length
  · rw [if_pos hinside]
    simp [hinside]
  · rw [if_neg hinside, Except.error.injEq, eq_comm]
    simp [hinside]

theorem checked_ok_iff {α : Type} {value result : α} (hlength : 0 < length) :
    (m.checkRange address length >>= fun _ => pure value) = .ok result ↔
      m.Inside address length ∧ result = value := by
  rw [checked_eq hlength]
  by_cases hinside : m.Inside address length
  · rw [if_pos hinside, Except.ok.injEq, eq_comm]
    simp [hinside]
  · rw [if_neg hinside]
    simp [hinside]

/-- The success of an access that asks first. -/
theorem checked_ok {α : Type} {value result : α}
    (h : (m.checkRange address length >>= fun _ => pure value) = .ok result) :
    result = value := by
  cases hrange : m.checkRange address length with
  | error fault =>
      rw [hrange] at h
      cases h
  | ok u =>
      rw [hrange] at h
      cases h
      rfl

/-! ### Reading -/

/-- The number that the bytes at an address and behind it make. -/
def wordAt (m : Memory) (address : Int) : Nat :=
  (m.byteAt address.toNat).toNat * 256 + (m.byteAt (address.toNat + 1)).toNat

theorem wordAt_lt (m : Memory) (address : Int) : m.wordAt address < 0x10000 := by
  have hhigh := (m.byteAt address.toNat).toNat_lt
  have hlow := (m.byteAt (address.toNat + 1)).toNat_lt
  unfold wordAt
  omega

theorem readWord_eq (m : Memory) (address : Int) :
    m.readWord address =
      if m.Inside address 2 then .ok (m.wordAt address)
      else .error (.outOfBounds (m.blamed address 2) m.size) :=
  checked_eq (by decide)

theorem readWord_ok {word : Nat} (h : m.readWord address = .ok word) :
    m.Inside address 2 ∧ word = m.wordAt address := by
  rw [readWord_eq] at h
  split at h
  · rename_i hinside
    cases h
    exact ⟨hinside, rfl⟩
  · cases h

theorem readWord_error (h : m.readWord address = .error fault) :
    ∃ place size, fault = .outOfBounds place size := by
  obtain ⟨-, hfault⟩ := (checked_error_iff (by decide)).1 h
  exact ⟨_, _, hfault⟩

theorem readBytes_error_iff :
    m.readBytes address length = .error fault ↔
      0 < length ∧ ¬ m.Inside address length ∧
        fault = .outOfBounds (m.blamed address length) m.size := by
  by_cases hlength : length ≤ 0
  · rw [readBytes, if_pos hlength]
    simp [pure, Except.pure]
    omega
  · rw [readBytes, if_neg hlength, checked_error_iff (by omega)]
    simp [Int.not_le.1 hlength]

/-! ### Writing -/

theorem size_overwrite (values : List UInt8) :
    ∀ (bytes : Array UInt8) (start : Nat), (overwrite bytes start values).size = bytes.size := by
  induction values with
  | nil => intro bytes start; rfl
  | cons value rest ih =>
      intro bytes start
      rw [overwrite, ih, Array.size_setIfInBounds]

theorem size_store {after : Memory} {values : List UInt8}
    (h : m.store address values = .ok after) : after.size = m.size := by
  unfold store at h
  split at h
  · cases h
    rfl
  · rw [checked_ok h]
    exact size_overwrite values m.bytes address.toNat

theorem byteAt_blank (size address : Nat) : (blank size).byteAt address = 0 := by
  rw [byteAt, blank, Array.getD_eq_getD_getElem?, Array.getElem?_replicate]
  split <;> rfl

/-- What is written stands from its first place on, as far as there are bytes, and everything else
is as before. -/
theorem getD_overwrite (values : List UInt8) :
    ∀ (bytes : Array UInt8) (start place : Nat),
      (overwrite bytes start values).getD place 0 =
        if start ≤ place ∧ place < start + values.length ∧ place < bytes.size then
          values.getD (place - start) 0
        else bytes.getD place 0 := by
  induction values with
  | nil =>
      intro bytes start place
      rw [List.length_nil, if_neg (by omega)]
      rfl
  | cons value rest ih =>
      intro bytes start place
      rw [overwrite, ih, Array.size_setIfInBounds, List.length_cons]
      by_cases hfirst : place = start
      · rw [if_neg (by omega), Array.getD_eq_getD_getElem?, hfirst]
        by_cases hinside : start < bytes.size
        · rw [if_pos (by omega), Array.getElem?_setIfInBounds_self_of_lt hinside, Nat.sub_self]
          rfl
        · rw [if_neg (by omega), Array.setIfInBounds_eq_of_size_le (by omega),
            Array.getD_eq_getD_getElem?]
      · have hothers : (bytes.setIfInBounds start value).getD place 0 = bytes.getD place 0 := by
          rw [Array.getD_eq_getD_getElem?, Array.getD_eq_getD_getElem?,
            Array.getElem?_setIfInBounds_ne (by omega)]
        rw [hothers]
        by_cases hbehind : start ≤ place ∧ place < start + (rest.length + 1) ∧ place < bytes.size
        · obtain ⟨offset, rfl⟩ : ∃ offset, place = start + 1 + offset :=
            ⟨place - (start + 1), by omega⟩
          rw [if_pos (by omega), if_pos hbehind]
          have hoffset : start + 1 + offset - start = start + 1 + offset - (start + 1) + 1 := by
            omega
          rw [hoffset, List.getD_cons_succ]
        · rw [if_neg (by omega), if_neg hbehind]

/-- A write that succeeds puts its values in place and leaves all other bytes alone. -/
theorem byteAt_store {after : Memory} {values : List UInt8}
    (h : m.store address values = .ok after) (place : Nat) :
    after.byteAt place =
      if address.toNat ≤ place ∧ place < address.toNat + values.length then
        values.getD (place - address.toNat) 0
      else m.byteAt place := by
  by_cases hempty : values = []
  · subst hempty
    rw [List.length_nil, if_neg (by omega)]
    cases h
    rfl
  · have hlength := List.length_pos_iff.2 hempty
    rw [store, if_neg (by simpa using hempty), checked_eq (by omega)] at h
    split at h
    · rename_i hinside
      obtain ⟨hlow, hhigh⟩ := hinside
      have hsize : address.toNat + values.length ≤ m.bytes.size := by
        change address + values.length ≤ (m.bytes.size : Int) at hhigh
        omega
      cases h
      rw [byteAt, getD_overwrite]
      by_cases hwritten : address.toNat ≤ place ∧ place < address.toNat + values.length
      · rw [if_pos hwritten, if_pos ⟨hwritten.1, hwritten.2, by omega⟩]
      · rw [if_neg hwritten, if_neg (fun hall => hwritten ⟨hall.1, hall.2.1⟩)]
        rfl
    · cases h

theorem store_error_iff {values : List UInt8} :
    m.store address values = .error fault ↔
      values ≠ [] ∧ ¬ m.Inside address values.length ∧
        fault = .outOfBounds (m.blamed address values.length) m.size := by
  by_cases hempty : values = []
  · subst hempty
    simp [store, pure, Except.pure]
  · have hlength := List.length_pos_iff.2 hempty
    rw [store, if_neg (by simpa using hempty), checked_error_iff (by omega)]
    simp [hempty]

/-- A write succeeds if there is nothing to write, or all of its range lies inside. -/
theorem store_ok_iff {values : List UInt8} :
    (∃ after, m.store address values = .ok after) ↔
      values = [] ∨ m.Inside address values.length := by
  cases hstore : m.store address values with
  | ok after =>
      refine iff_of_true ⟨after, rfl⟩ (Decidable.or_iff_not_imp_left.2 ?_)
      intro hvalues
      refine Decidable.not_not.1 fun houtside => ?_
      rw [store_error_iff.2 ⟨hvalues, houtside, rfl⟩] at hstore
      cases hstore
  | error fault =>
      obtain ⟨hvalues, houtside, -⟩ := store_error_iff.1 hstore
      refine iff_of_false ?_ (not_or.2 ⟨hvalues, houtside⟩)
      rintro ⟨after, hafter⟩
      cases hafter

end ChipEight.Memory

/-! ### Sprites -/

namespace ChipEight.Font

theorem size_writeFrom {sprites : List (List UInt8)} :
    ∀ (first : Nat) (m : Memory), (writeFrom first m sprites).1.size = m.size := by
  induction sprites with
  | nil => intro first m; rfl
  | cons sprite rest ih =>
      intro first m
      rw [writeFrom]
      split
      · rfl
      · rename_i after hstore
        rw [ih, Memory.size_store hstore]

theorem size_install (m : Memory) : (install m).1.size = m.size := size_writeFrom 0 m

theorem toNat_addressOf {digit : Nat} (h : digit < 16) :
    (addressOf digit).toNat = address + digit * rows := by
  simp only [addressOf, address, rows]
  omega

/-- Sprites that fit stand one after the other, and everything else is as before. -/
theorem byteAt_writeFrom {sprites : List (List UInt8)} :
    ∀ (first : Nat) {m after : Memory}, (∀ sprite ∈ sprites, sprite.length = rows) →
      first + sprites.length ≤ 16 → writeFrom first m sprites = (after, none) → ∀ place,
      after.byteAt place =
        if address + first * rows ≤ place ∧
            place < address + first * rows + sprites.flatten.length then
          sprites.flatten.getD (place - (address + first * rows)) 0
        else m.byteAt place := by
  induction sprites with
  | nil =>
      intro first m after _ _ hwrite place
      cases hwrite
      rw [List.flatten_nil, List.length_nil, if_neg (by omega)]
  | cons sprite rest ih =>
      intro first m after hrows hdigits hwrite place
      have hsprite : sprite.length = rows := hrows sprite (by simp)
      rw [List.length_cons] at hdigits
      rw [writeFrom] at hwrite
      split at hwrite
      · cases hwrite
      · rename_i between hstore
        have hrows' : ∀ other ∈ rest, other.length = rows :=
          fun other hother => hrows other (List.mem_cons_of_mem _ hother)
        have hrest := ih (first + 1) hrows' (by omega) hwrite place
        have hfirst := Memory.byteAt_store hstore place
        rw [toNat_addressOf (by omega), hsprite] at hfirst
        have hnext : address + (first + 1) * rows = address + first * rows + rows := by
          rw [Nat.add_mul, Nat.one_mul, Nat.add_assoc]
        rw [hnext] at hrest
        rw [hrest, hfirst, List.flatten_cons, List.length_append, hsprite]
        generalize address + first * rows = start
        by_cases hhere : start ≤ place ∧ place < start + rows
        · rw [if_neg (by omega), if_pos hhere, if_pos (by omega),
            List.getD_append _ _ _ _ (by omega)]
        · by_cases hbelow : start + rows ≤ place ∧
              place < start + rows + rest.flatten.length
          · rw [if_pos hbelow, if_pos (by omega), List.getD_append_right _ _ _ _ (by omega),
              hsprite, Nat.sub_sub]
          · rw [if_neg hbelow, if_neg hhere, if_neg (by omega)]

/-- All sixteen sprites stand in their places, five bytes each. -/
theorem byteAt_install {m after : Memory} (h : install m = (after, none)) (place : Nat) :
    after.byteAt place =
      if address ≤ place ∧ place < address + 80 then
        sprites.flatten.getD (place - address) 0
      else m.byteAt place :=
  byteAt_writeFrom 0 (by decide) (by decide) h place

end ChipEight.Font
