/-
What the masks of the decoder cut out.

The decoder cuts the digits out of an operand with masks, and none of these is longer than sixteen
bits.  An operand may be any integer.  For a mask it is an unending row of bits, in two's complement
where it is below zero, and `land_cut` says that `cut` treats it as that.  `masked` tells what the
masks find: the digits of the remainder, whatever lies above them.  So every operand decodes as a
word does (`decode_eq`), and nothing else needs to know of masks.
-/
import Mathlib.Data.Int.Bitwise
import ChipEight.Proofs.Decoding

namespace ChipEight.Instruction

/-! ### Bits -/

theorem land_cut (n : Int) (mask : Nat) : n.land mask = cut n mask := by
  cases n with
  | ofNat n => rfl
  | negSucc n =>
      show ((mask.ldiff n : Nat) : Int) = ((n ^^^ mask) &&& mask : Nat)
      rw [Int.natCast_inj]
      refine Nat.eq_of_testBit_eq fun i => ?_
      rw [Nat.testBit_ldiff, Nat.testBit_and, Nat.testBit_xor]
      cases n.testBit i <;> cases mask.testBit i <;> rfl

theorem testBit_word (n : Int) (i : Nat) : (word n).testBit i = (decide (i < 16) && n.testBit i) := by
  cases n with
  | ofNat n =>
      have hword : word (.ofNat n) = n % 2 ^ 16 := by
        simp only [word, Int.ofNat_eq_natCast]
        omega
      rw [hword, Nat.testBit_mod_two_pow]
      rfl
  | negSucc n =>
      -- The bits of a number below zero are those of its complement, turned around.
      have hword : word (.negSucc n) = 2 ^ 16 - (n % 2 ^ 16 + 1) := by
        simp only [word]
        omega
      have hsmall : n % 2 ^ 16 < 2 ^ 16 := Nat.mod_lt _ (by decide)
      rw [hword, Nat.testBit_two_pow_sub_succ hsmall, Nat.testBit_mod_two_pow]
      show _ = (decide (i < 16) && !n.testBit i)
      cases decide (i < 16) <;> rfl

/-- A mask of at most sixteen bits cuts the same out of an integer and out of its remainder. -/
theorem land_eq (n : Int) {mask : Nat} (hmask : mask < 0x10000) :
    n.land mask = (word n &&& mask : Nat) := by
  rw [land_cut, Int.natCast_inj]
  refine Nat.eq_of_testBit_eq fun i => ?_
  have hbit : (cut n mask).testBit i = (n.testBit i && mask.testBit i) := by
    have hland := Int.testBit_land n mask i
    rw [land_cut] at hland
    exact hland
  rw [hbit, Nat.testBit_and, testBit_word]
  by_cases hi : i < 16
  · simp [hi]
  · have hlong : 2 ^ 16 ≤ 2 ^ i := Nat.pow_le_pow_right (by decide) (by omega)
    rw [Nat.testBit_lt_two_pow (by omega), Bool.and_false, Bool.and_false]

/-- The mask of the last bits leaves a remainder. -/
theorem land_low (n : Int) (length : Nat) (h : 2 ^ length - 1 < 0x10000) :
    n.land (2 ^ length - 1 : Nat) = (word n % 2 ^ length : Nat) := by
  rw [land_eq n h, Nat.and_two_pow_sub_one_eq_mod]

/-- The mask of so many bits from a place on, and then a shift to the end, leave a digit. -/
theorem land_shiftRight (n : Int) (length place : Nat)
    (h : (2 ^ length - 1) <<< place < 0x10000) :
    n.land ((2 ^ length - 1) <<< place : Nat) >>> place =
      (word n / 2 ^ place % 2 ^ length : Nat) := by
  rw [land_eq n h]
  show ((_ >>> place : Nat) : Int) = _
  rw [Nat.shiftRight_and_distrib, Nat.shiftLeft_shiftRight, Nat.and_two_pow_sub_one_eq_mod,
    Nat.shiftRight_eq_div_pow]

/-! ### Digits -/

/-- What the masks of the decoder cut out of an integer are the digits of a word. -/
structure Masked (operand : Int) (word : Nat) : Prop where
  group : operand.land 0xF000 >>> (12 : Nat) = (word / 0x1000 : Nat)
  x : operand.land 0x0F00 >>> (8 : Nat) = (xOf word : Nat)
  y : operand.land 0x00F0 >>> (4 : Nat) = (yOf word : Nat)
  address : operand.land 0x0FFF = (addressOf word : Nat)
  byte : operand.land 0x00FF = (byteOf word).toNat
  length : operand.land 0x000F = (lengthOf word : Nat)

theorem masked (operand : Int) : Masked operand (word operand) where
  group := by
    have hgroup : word operand / 2 ^ 12 % 2 ^ 4 = word operand / 0x1000 := by
      unfold word
      omega
    rw [← hgroup]
    exact land_shiftRight operand 4 12 (by decide)
  x := land_shiftRight operand 4 8 (by decide)
  y := land_shiftRight operand 4 4 (by decide)
  address := land_low operand 12 (by decide)
  byte := by
    rw [toNat_byteOf]
    exact land_low operand 8 (by decide)
  length := land_low operand 4 (by decide)

theorem cut_of_land {n : Int} {mask digits : Nat} (h : n.land mask = digits) :
    cut n mask = digits := by
  rwa [land_cut, Int.natCast_inj] at h

theorem cut_shiftRight_of_land {n : Int} {mask place digits : Nat}
    (h : n.land mask >>> place = digits) : cut n mask >>> place = digits := by
  rw [land_cut] at h
  exact Int.natCast_inj.1 h

/-- The decoder finds the digits of the low sixteen bits. -/
theorem Digits.ofOperand_eq (operand : Int) : ofOperand operand = ofWord (word operand) := by
  have hmasked := masked operand
  refine Digits.ext ?group ?x ?y ?nnn ?kk ?n
  case group => exact cut_shiftRight_of_land hmasked.group
  case x => exact Fin.ext (cut_shiftRight_of_land hmasked.x)
  case y => exact Fin.ext (cut_shiftRight_of_land hmasked.y)
  case nnn => exact Fin.ext (cut_of_land hmasked.address)
  case kk => exact UInt8.toNat_inj.1 (cut_of_land hmasked.byte)
  case n => exact Fin.ext (cut_of_land hmasked.length)

/-- An operand is the instruction that its low sixteen bits are. -/
theorem decode_eq (operand : Int) : decode operand = ofWord? (word operand) := by
  rw [decode, Digits.ofOperand_eq, ofWord?]

theorem word_emod (n : Int) : word (n % 0x10000) = word n := by
  rw [word, word, Int.emod_emod_of_dvd _ (Int.dvd_refl _)]

theorem decode_emod (operand : Int) : decode (operand % 0x10000) = decode operand := by
  rw [decode_eq, decode_eq, word_emod]

example : decode (0x00EE - 0x10000) = some .ret := rfl

end ChipEight.Instruction
