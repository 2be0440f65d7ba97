/-
What a memory tells of its history.

A byte shows what was written to it last, whatever was written elsewhere and whatever was tried in
vain.  `lastWritten` reads this off the operations that a memory has been through: of those since
the last reset it takes the latest that fits into the memory and covers the place.  Nothing is
said there about how a memory works, only about addresses, so that a write which ran over the end,
or began before the start, and left a part of its bytes behind would be found out.

What is read is tied to the same addresses.  An access succeeds if all of its range lies inside,
and then every byte of it is what reading that byte alone would give.
-/
import Mathlib.Data.List.DropRight
import ChipEight.Proofs.Memory

namespace ChipEight.Memory

/-! ### Operations -/

/-- Something that is done to the bytes of a memory. -/
inductive Operation where
  | writeByte (address value : Int)
  | writeBytes (address : Int) (values : List Int)
  | reset
  deriving DecidableEq, Repr

namespace Operation

/-- The first address that is written to. -/
def address : Operation → Int
  | writeByte address _ => address
  | writeBytes address _ => address
  | reset => 0

/-- What is written, from the first address on. -/
def values : Operation → List Int
  | writeByte _ value => [value]
  | writeBytes _ values => values
  | reset => []

/-- An address lies in the range that is written to. -/
def Covers (operation : Operation) (place : Int) : Prop :=
  operation.address ≤ place ∧ place < operation.address + operation.values.length

/-- The range lies in a memory of some size.  An empty range lies in any. -/
def Fits (size : Nat) (operation : Operation) : Prop :=
  operation.values = [] ∨
    0 ≤ operation.address ∧ operation.address + operation.values.length ≤ size

instance (size : Nat) (operation : Operation) : Decidable (operation.Fits size) :=
  inferInstanceAs (Decidable (_ ∨ _ ∧ _))

/-- What is written to a place, if the write fits into the memory and covers the place. -/
def written? (size : Nat) (place : Int) (operation : Operation) : Option Int :=
  if operation.Fits size ∧ operation.address ≤ place then
    operation.values[(place - operation.address).toNat]?
  else none

end Operation

/-- The memory after an operation, or the fault of a write. -/
def operate (m : Memory) : Operation → Except Fault Memory
  | .writeByte address value => m.writeByte address value
  | .writeBytes address values => m.writeBytes address values
  | .reset => .ok m.cleared

/-- The memory after an operation that may have failed. -/
def apply (m : Memory) (operation : Operation) : Memory :=
  match m.operate operation with
  | .ok after => after
  | .error _ => m

/-- The memory after some operations, one after the other. -/
def after (m : Memory) (operations : List Operation) : Memory := operations.foldl apply m

/-! ### Reading a history -/

/-- The number written to a place last since the last reset, and zero if there is none. -/
def lastWritten (size : Nat) (history : List Operation) (place : Int) : Int :=
  (((history.rtakeWhile (· ≠ .reset)).filterMap (·.written? size place)).getLast?).getD 0

variable {m : Memory} {size : Nat} {history : List Operation} {operation : Operation}
  {place address length : Int}

theorem lastWritten_reset : lastWritten size (history ++ [.reset]) place = 0 := by
  rw [lastWritten, List.rtakeWhile_concat_neg _ _ _ (by simp)]
  rfl

/-- A later write hides the earlier ones where it covers a place, and nowhere else. -/
theorem lastWritten_concat (h : operation ≠ .reset) :
    lastWritten size (history ++ [operation]) place =
      (operation.written? size place).getD (lastWritten size history place) := by
  rw [lastWritten, List.rtakeWhile_concat_pos _ _ _ (by simpa using h), List.filterMap_append]
  cases hwritten : operation.written? size place with
  | none => simp [hwritten, lastWritten]
  | some value => simp [hwritten]

/-! ### Which writes fail -/

theorem operate_eq_writeBytes (h : operation ≠ .reset) :
    m.operate operation = m.writeBytes operation.address operation.values := by
  cases operation with
  | reset => exact absurd rfl h
  | _ => rfl

/-- A write fails if it does not fit. -/
theorem operate_error_iff :
    (∃ fault, m.operate operation = .error fault) ↔ ¬ operation.Fits m.size := by
  by_cases hreset : operation = .reset
  · subst hreset
    simp [operate, Operation.Fits, Operation.values]
  · simp only [operate_eq_writeBytes hreset, writeBytes, store_error_iff, List.length_map]
    simp [Operation.Fits, Inside]

/-- What does not fit has an address that is none of the memory. -/
theorem not_fits_iff :
    ¬ operation.Fits size ↔
      operation.values ≠ [] ∧ ∃ place, operation.Covers place ∧ ¬ (0 ≤ place ∧ place < size) := by
  unfold Operation.Fits Operation.Covers
  rw [not_or]
  refine and_congr_right fun hvalues => ?_
  have hlength := List.length_pos_iff.2 hvalues
  constructor
  · intro houtside
    -- The first address is outside, or else the last one is.
    by_cases hfirst : 0 ≤ operation.address
    · exact ⟨operation.address + operation.values.length - 1, by omega, by omega⟩
    · exact ⟨operation.address, by omega, by omega⟩
  · rintro ⟨place, hcovers, houtside⟩ hinside
    omega

/-! ### What is left behind -/

/-- The bytes of a memory are what its history tells. -/
structure Holds (size : Nat) (history : List Operation) (m : Memory) : Prop where
  size_eq : m.size = size
  byteAt : ∀ place : Nat, place < size →
    m.byteAt place = UInt8.ofInt (lastWritten size history place)

theorem holds_blank (size : Nat) : (blank size).Holds size [] where
  size_eq := size_blank size
  byteAt := by
    intro place _
    rw [byteAt_blank]
    rfl

/-- A write that fits leaves its values. -/
theorem byteAt_of_operate {after : Memory} (hreset : operation ≠ .reset)
    (h : m.operate operation = .ok after) (place : Nat) :
    after.byteAt place =
      ((operation.written? m.size place).map UInt8.ofInt).getD (m.byteAt place) := by
  have hfits : operation.Fits m.size := by
    by_contra hfits
    obtain ⟨fault, hfault⟩ := operate_error_iff.2 hfits
    rw [h] at hfault
    cases hfault
  rw [operate_eq_writeBytes hreset, writeBytes] at h
  rw [byteAt_store h, List.length_map, Operation.written?]
  unfold Operation.Fits at hfits
  by_cases hcovered : operation.address.toNat ≤ place ∧
      place < operation.address.toNat + operation.values.length
  · -- Something is written, so that the first address is one of the memory.
    have hvalues : operation.values ≠ [] := List.length_pos_iff.1 (by omega)
    have hlow := (hfits.resolve_left hvalues).1
    have hoffset : ((place : Int) - operation.address).toNat = place - operation.address.toNat := by
      omega
    rw [if_pos hcovered, if_pos ⟨hfits, by omega⟩, hoffset, List.getD_eq_getElem?_getD,
      List.getElem?_map, List.getElem?_eq_getElem (by omega)]
    rfl
  · rw [if_neg hcovered]
    split
    · rename_i hbehind
      rcases hfits with hempty | ⟨hlow, -⟩
      · rw [hempty]
        rfl
      · rw [List.getElem?_eq_none (by omega)]
        rfl
    · rfl

theorem Holds.apply (h : m.Holds size history) (operation : Operation) :
    (m.apply operation).Holds size (history ++ [operation]) := by
  by_cases hreset : operation = .reset
  · subst hreset
    refine ⟨?_, ?_⟩
    · show (blank m.size).size = size
      rw [size_blank, h.size_eq]
    · intro place _
      show (blank m.size).byteAt place = _
      rw [byteAt_blank, lastWritten_reset]
      rfl
  · cases hoperate : m.operate operation with
    | error fault =>
        -- The write counts for nothing, and it has changed nothing.
        have hfits := operate_error_iff.1 ⟨fault, hoperate⟩
        rw [h.size_eq] at hfits
        have hsame : m.apply operation = m := by rw [Memory.apply, hoperate]
        rw [hsame]
        refine ⟨h.size_eq, ?_⟩
        intro place hplace
        rw [h.byteAt place hplace, lastWritten_concat hreset, Operation.written?,
          if_neg (fun hall => hfits hall.1)]
        rfl
    | ok after =>
        have hafter : m.apply operation = after := by rw [Memory.apply, hoperate]
        rw [hafter]
        refine ⟨?_, ?_⟩
        · rw [operate_eq_writeBytes hreset] at hoperate
          rw [size_store hoperate, h.size_eq]
        · intro place hplace
          rw [byteAt_of_operate hreset hoperate, h.size_eq, h.byteAt place hplace,
            lastWritten_concat hreset]
          cases operation.written? size place <;> rfl

theorem Holds.after {operations : List Operation} (h : m.Holds size history) :
    (m.after operations).Holds size (history ++ operations) := by
  induction operations generalizing m history with
  | nil => rwa [List.append_nil]
  | cons operation rest ih =>
      have hrest := ih (h.apply operation)
      rwa [List.append_assoc, List.singleton_append] at hrest

/-! ### What is read -/

theorem toNat_ofInt (n : Int) : ((UInt8.ofInt n).toNat : Int) = n % 256 := by
  simp only [UInt8.ofInt, UInt8.toNat_ofNat']
  omega

theorem readByte_ok_iff {byte : UInt8} :
    m.readByte address = .ok byte ↔ m.Inside address 1 ∧ byte = m.byteAt address.toNat :=
  checked_ok_iff (by decide)

theorem readBytes_ok_iff {bytes : List UInt8} (hlength : 0 < length) :
    m.readBytes address length = .ok bytes ↔
      m.Inside address length ∧
        bytes = (List.range length.toNat).map fun i => m.byteAt (address.toNat + i) := by
  rw [readBytes, if_neg (by omega)]
  exact checked_ok_iff hlength

theorem readWord_ok_iff {word : Nat} :
    m.readWord address = .ok word ↔ m.Inside address 2 ∧ word = m.wordAt address :=
  checked_ok_iff (by decide)

/-- Every byte of a range is what reading that byte alone gives. -/
theorem readByte_of_readBytes {bytes : List UInt8} (hlength : 0 < length)
    (h : m.readBytes address length = .ok bytes) {i : Nat} {byte : UInt8} :
    bytes[i]? = some byte ↔ i < length ∧ m.readByte (address + i) = .ok byte := by
  obtain ⟨hinside, rfl⟩ := (readBytes_ok_iff hlength).1 h
  obtain ⟨hlow, hhigh⟩ := hinside
  have hplace : (address + i).toNat = address.toNat + i := by omega
  have hbyte : m.Inside (address + i) 1 ↔ address + i < m.size := by
    unfold Inside
    omega
  rw [readByte_ok_iff, hplace, hbyte]
  simp only [List.getElem?_map, Option.map_eq_some_iff, List.getElem?_eq_some_iff,
    List.length_range, List.getElem_range]
  constructor
  · rintro ⟨_, ⟨hi, rfl⟩, rfl⟩
    exact ⟨by omega, by omega, rfl⟩
  · rintro ⟨hi, -, rfl⟩
    exact ⟨i, ⟨by omega, rfl⟩, rfl⟩

/-- **A memory keeps what was written last.**  Whatever was done to a blank memory, with any
addresses and any numbers: the next write fails if and only if it is not empty and an address of
its range is none of the memory, and then the memory stays as it is.  A byte can be read if it is
one of the memory, and is the number written to its place last since the last reset, cut to eight
bits.  A range can be read if all of it lies in the memory, and is made of its bytes in order; a
word can be read if its two bytes can, the first being the more significant. -/
theorem memory_keeps_last_written (size : Nat) (history : List Operation) :
    let m := (blank size).after history
    (∀ operation, (∃ fault, m.operate operation = .error fault) ↔
      operation.values ≠ [] ∧
        ∃ place, operation.Covers place ∧ ¬ (0 ≤ place ∧ place < (size : Int))) ∧
    (∀ operation fault, m.operate operation = .error fault → m.apply operation = m) ∧
    (∀ address, (∃ byte, m.readByte address = .ok byte) ↔ 0 ≤ address ∧ address < (size : Int)) ∧
    (∀ address byte, m.readByte address = .ok byte →
      (byte.toNat : Int) = lastWritten size history address % 256) ∧
    (∀ address length, 0 < length →
      ((∃ bytes, m.readBytes address length = .ok bytes) ↔
        0 ≤ address ∧ address + length ≤ size) ∧
      ∀ bytes, m.readBytes address length = .ok bytes →
        (bytes.length : Int) = length ∧
          ∀ (i : Nat) byte, bytes[i]? = some byte → m.readByte (address + i) = .ok byte) ∧
    ∀ address,
      ((∃ word, m.readWord address = .ok word) ↔
        (∃ high, m.readByte address = .ok high) ∧ ∃ low, m.readByte (address + 1) = .ok low) ∧
      ∀ high low, m.readByte address = .ok high → m.readByte (address + 1) = .ok low →
        m.readWord address = .ok (256 * high.toNat + low.toNat) := by
  intro m
  have hholds : m.Holds size history := (holds_blank size).after
  refine ⟨?_, ?_, ?_, ?_, ?_, ?_⟩
  · intro operation
    rw [operate_error_iff, hholds.size_eq, not_fits_iff]
  · intro operation fault hfault
    rw [apply, hfault]
  · intro address
    simp only [readByte_ok_iff, exists_and_left, exists_eq, and_true]
    rw [Inside, hholds.size_eq]
    omega
  · intro address byte hbyte
    obtain ⟨⟨hlow, hhigh⟩, rfl⟩ := readByte_ok_iff.1 hbyte
    rw [hholds.size_eq] at hhigh
    rw [hholds.byteAt address.toNat (by omega), toNat_ofInt, Int.toNat_of_nonneg hlow]
  · intro address length hlength
    constructor
    · simp only [readBytes_ok_iff hlength, exists_and_left, exists_eq, and_true]
      rw [Inside, hholds.size_eq]
    · intro bytes hbytes
      refine ⟨?_, ?_⟩
      · obtain ⟨-, rfl⟩ := (readBytes_ok_iff hlength).1 hbytes
        rw [List.length_map, List.length_range, Int.toNat_of_nonneg (by omega)]
      · intro i byte hbyte
        exact ((readByte_of_readBytes hlength hbytes).1 hbyte).2
  · intro address
    simp only [readByte_ok_iff, readWord_ok_iff, exists_and_left, exists_eq, and_true]
    unfold Inside
    constructor
    · omega
    · rintro high low ⟨⟨hlow, -⟩, rfl⟩ ⟨⟨-, hhigh⟩, rfl⟩
      refine ⟨⟨hlow, by omega⟩, ?_⟩
      have hnext : (address + 1).toNat = address.toNat + 1 := by omega
      rw [wordAt, hnext, Nat.mul_comm]

/-- Three writes to a memory of four bytes that was just reset.  The first is cut to eight bits, the
second runs over the end, and the third covers half of what the first wrote. -/
def overlapping : List Operation :=
  [.writeByte 3 9, .reset, .writeBytes 1 [0x112, -1], .writeBytes 3 [7, 8], .writeByte 2 5]

/-- The second write leaves nothing behind, and the third hides half of the first. -/
theorem overlapping_kept :
    let m := (blank 4).after overlapping
    m.readByte 1 = .ok 0x12 ∧ m.readByte 2 = .ok 5 ∧ m.readByte 3 = .ok 0 ∧
      m.readWord 1 = .ok 0x1205 ∧ (∃ bytes, m.readBytes 1 3 = .ok bytes) ∧
      ¬ ∃ bytes, m.readBytes 2 3 = .ok bytes := by
  intro m
  obtain ⟨-, -, hinside, hlast, hrange, hword⟩ := memory_keeps_last_written 4 overlapping
  have hread : ∀ (address : Int) (value : UInt8), 0 ≤ address ∧ address < 4 →
      (value.toNat : Int) = lastWritten 4 overlapping address % 256 →
      m.readByte address = .ok value := by
    intro address value haddress hvalue
    obtain ⟨byte, hbyte⟩ := (hinside address).2 haddress
    rw [← hlast address byte hbyte, Int.natCast_inj, UInt8.toNat_inj] at hvalue
    rw [hbyte, hvalue]
  have hfirst : m.readByte 1 = .ok 0x12 := hread 1 0x12 (by decide) (by decide)
  have hsecond : m.readByte 2 = .ok 5 := hread 2 5 (by decide) (by decide)
  have hthird : m.readByte 3 = .ok 0 := hread 3 0 (by decide) (by decide)
  refine ⟨hfirst, hsecond, hthird, (hword 1).2 0x12 5 hfirst hsecond, ?_, ?_⟩
  · exact (hrange 1 3 (by decide)).1.2 (by decide)
  · intro hover
    exact absurd ((hrange 2 3 (by decide)).1.1 hover) (by decide)

end ChipEight.Memory
