/-
What the digits of a word decide.

Once an operand is brought down to sixteen bits, its digits can be told by division
(`Digits.ofWord`), and everything here is about words of that kind.  That the decoder, which
works with masks, finds the same digits in any operand is shown elsewhere.

The first digit names the group of an instruction, and `ofWord?_group` says so for whatever a
word decodes to; in most groups nothing else decides which instruction it is.  Two things
about a word are needed without a look at its instruction: whether it has one at all
(`Unassigned`), and how many bytes it wants at the index register (`reach`).  Both are said
by the digits alone, and the lemmas show that the decoder agrees.

The other way around, a word is put together from its digits: from a group and an address
(`ofAddress`), a register and a byte (`ofByte`), or two registers and a last digit
(`ofRegisters`).  The decoder finds in such a word what it was put together from.
-/
import ChipEight.Instruction

namespace ChipEight.Instruction

/-! ### The digits -/

/-- The low sixteen bits of an operand. -/
def word (operand : Int) : Nat := (operand % 0x10000).toNat

/-- The second digit of a word. -/
def xOf (word : Nat) : Register := ⟨word / 0x100 % 16, by omega⟩

/-- The third digit of a word. -/
def yOf (word : Nat) : Register := ⟨word / 0x10 % 16, by omega⟩

/-- The last two digits of a word. -/
def byteOf (word : Nat) : UInt8 := UInt8.ofNat (word % 0x100)

/-- The last three digits of a word. -/
def addressOf (word : Nat) : ShortAddress := ⟨word % 0x1000, by omega⟩

/-- The last digit of a word. -/
def lengthOf (word : Nat) : Fin 16 := ⟨word % 0x10, by omega⟩

/-- The digits of a word. -/
def Digits.ofWord (word : Nat) : Digits :=
  ⟨word / 0x1000, xOf word, yOf word, addressOf word, byteOf word, lengthOf word⟩

/-- The instruction of a word, if it is one. -/
def ofWord? (word : Nat) : Option Instruction := (Digits.ofWord word).instruction?

variable {word : Nat} {instruction : Instruction}

/-- The words that are no instruction, by their digits. -/
def Unassigned (word : Nat) : Prop :=
  (word / 0x1000 = 0x0 ∧ word ≠ 0x00E0 ∧ word ≠ 0x00EE) ∨
  (word / 0x1000 = 0x8 ∧ word % 0x10 ∈ [0x8, 0x9, 0xA, 0xB, 0xC, 0xD, 0xF]) ∨
  (word / 0x1000 = 0xE ∧ word % 0x100 ∉ [0x9E, 0xA1]) ∨
  (word / 0x1000 = 0xF ∧
    word % 0x100 ∉ [0x07, 0x0A, 0x15, 0x18, 0x1E, 0x29, 0x33, 0x55, 0x65])

instance (word : Nat) : Decidable (Unassigned word) :=
  inferInstanceAs (Decidable (_ ∨ _ ∨ _ ∨ _))

/-- The bytes at the index register that a word asks for. -/
def reach (word : Nat) : Nat :=
  if word / 0x1000 = 0xD then word % 0x10
  else if word / 0x1000 = 0xF ∧ word % 0x100 = 0x33 then 3
  else if word / 0x1000 = 0xF ∧ word % 0x100 ∈ [0x55, 0x65] then word / 0x100 % 0x10 + 1
  else 0

/-- The first digit of the words of an instruction. -/
def group : Instruction → Nat
  | clear | ret => 0x0
  | jump _ => 0x1
  | call _ => 0x2
  | skip (.equalsByte _ _) => 0x3
  | skip (.differsFromByte _ _) => 0x4
  | skip (.equals _ _) => 0x5
  | load _ _ => 0x6
  | add _ _ => 0x7
  | compute _ _ _ => 0x8
  | skip (.differs _ _) => 0x9
  | loadIndex _ => 0xA
  | jumpAhead _ => 0xB
  | random _ _ => 0xC
  | draw _ _ _ => 0xD
  | skip (.keyDown _) | skip (.keyUp _) => 0xE
  | readDelay _ | awaitKey _ | setDelay _ | setSound _ | addIndex _ | loadDigit _
  | storeDecimal _ | store _ | restore _ => 0xF

/-- How many bytes at the index register an instruction asks for. -/
def wants : Instruction → Nat
  | draw _ _ n => n
  | storeDecimal _ => 3
  | store x | restore x => x + 1
  | _ => 0

/-! ### Words from their digits -/

/-- The word `gnnn`. -/
def ofAddress (group : Nat) (nnn : ShortAddress) : Nat := group * 0x1000 + nnn

/-- The word `gxkk`. -/
def ofByte (group : Nat) (x : Register) (kk : UInt8) : Nat :=
  group * 0x1000 + x * 0x100 + kk.toNat

/-- The word `gxyn`. -/
def ofRegisters (group : Nat) (x y : Register) (n : Fin 16) : Nat :=
  group * 0x1000 + x * 0x100 + y * 0x10 + n

section

variable {group : Nat} (x y : Register) (n : Fin 16) (kk : UInt8) (nnn : ShortAddress)

@[simp] theorem ofAddress_group : ofAddress group nnn / 0x1000 = group := by
  unfold ofAddress
  omega

@[simp] theorem addressOf_ofAddress : addressOf (ofAddress group nnn) = nnn :=
  Fin.ext (by simp only [addressOf, ofAddress]; omega)

@[simp] theorem ofByte_group : ofByte group x kk / 0x1000 = group := by
  have hbyte := kk.toNat_lt
  unfold ofByte
  omega

theorem ofByte_lt (h : group < 0x10) : ofByte group x kk < 0x10000 := by
  have hbyte := kk.toNat_lt
  unfold ofByte
  omega

@[simp] theorem xOf_ofByte : xOf (ofByte group x kk) = x := by
  have hbyte := kk.toNat_lt
  refine Fin.ext ?_
  simp only [xOf, ofByte]
  omega

@[simp] theorem ofByte_mod : ofByte group x kk % 0x100 = kk.toNat := by
  have hbyte := kk.toNat_lt
  unfold ofByte
  omega

@[simp] theorem byteOf_ofByte : byteOf (ofByte group x kk) = kk := by
  rw [byteOf, ofByte_mod, UInt8.ofNat_toNat]

theorem toNat_byteOf (word : Nat) : (byteOf word).toNat = word % 0x100 := by
  rw [byteOf, UInt8.toNat_ofNat']
  omega

theorem ofByte_byteOf (word : Nat) :
    ofByte (word / 0x1000) (xOf word) (byteOf word) = word := by
  rw [ofByte, toNat_byteOf]
  simp only [xOf]
  omega

@[simp] theorem ofRegisters_group : ofRegisters group x y n / 0x1000 = group := by
  unfold ofRegisters
  omega

theorem ofRegisters_lt (h : group < 0x10) : ofRegisters group x y n < 0x10000 := by
  unfold ofRegisters
  omega

@[simp] theorem xOf_ofRegisters : xOf (ofRegisters group x y n) = x :=
  Fin.ext (by simp only [xOf, ofRegisters]; omega)

@[simp] theorem yOf_ofRegisters : yOf (ofRegisters group x y n) = y :=
  Fin.ext (by simp only [yOf, ofRegisters]; omega)

@[simp] theorem ofRegisters_mod : ofRegisters group x y n % 0x10 = n := by
  unfold ofRegisters
  omega

@[simp] theorem lengthOf_ofRegisters : lengthOf (ofRegisters group x y n) = n :=
  Fin.ext (ofRegisters_mod x y n)

theorem ofRegisters_lengthOf (word : Nat) :
    ofRegisters (word / 0x1000) (xOf word) (yOf word) (lengthOf word) = word := by
  simp only [ofRegisters, xOf, yOf, lengthOf]
  omega

end

/-! ### The instructions of one group -/

theorem ofCode?_eq_none_iff {code : Nat} (h : code < 0x10) :
    Computation.ofCode? code = none ↔ code ∈ [0x8, 0x9, 0xA, 0xB, 0xC, 0xD, 0xF] := by
  have hdigit : ∀ digit < 0x10, (Computation.ofCode? digit = none ↔
      digit ∈ [0x8, 0x9, 0xA, 0xB, 0xC, 0xD, 0xF]) := by decide
  exact hdigit code h

theorem ofMiscCode?_eq_none_iff {x : Register} {code : Nat} :
    ofMiscCode? x code = none ↔
      code ∉ [0x07, 0x0A, 0x15, 0x18, 0x1E, 0x29, 0x33, 0x55, 0x65] := by
  unfold ofMiscCode?
  split <;> simp_all

theorem addressOf_eq_iff {nnn : ShortAddress} (hgroup : word / 0x1000 = 0) :
    addressOf word = nnn ↔ word = nnn := by
  rw [Fin.ext_iff, addressOf]
  show word % 0x1000 = nnn ↔ _
  omega

/-- A group that is known is all that the table of instructions has to be entered with. -/
theorem ofWord?_of_group {group : Nat} (hgroup : word / 0x1000 = group) :
    ofWord? word = Digits.instruction?
      ⟨group, xOf word, yOf word, addressOf word, byteOf word, lengthOf word⟩ := by
  rw [ofWord?, Digits.ofWord, hgroup]

theorem ofWord?_zero (hgroup : word / 0x1000 = 0x0) :
    ofWord? word =
      if word = 0x00E0 then some clear else if word = 0x00EE then some ret else none := by
  have hclear : addressOf word = 0x0E0 ↔ word = 0x00E0 := addressOf_eq_iff hgroup
  have hret : addressOf word = 0x0EE ↔ word = 0x00EE := addressOf_eq_iff hgroup
  simp only [← hclear, ← hret]
  exact ofWord?_of_group hgroup

theorem ofWord?_draw (hgroup : word / 0x1000 = 0xD) :
    ofWord? word = some (draw (xOf word) (yOf word) (lengthOf word)) :=
  ofWord?_of_group hgroup

theorem ofWord?_misc (hgroup : word / 0x1000 = 0xF) :
    ofWord? word = ofMiscCode? (xOf word) (word % 0x100) := by
  rw [← toNat_byteOf]
  exact ofWord?_of_group hgroup

theorem ofWord?_keys (hgroup : word / 0x1000 = 0xE) :
    ofWord? word =
      if word % 0x100 = 0x9E then some (skip (.keyDown (xOf word)))
      else if word % 0x100 = 0xA1 then some (skip (.keyUp (xOf word)))
      else none := by
  simp only [← toNat_byteOf]
  exact ofWord?_of_group hgroup

theorem ofMiscCode?_group {x : Register} {code : Nat} (h : ofMiscCode? x code = some instruction) :
    instruction.group = 0xF := by
  unfold ofMiscCode? at h
  split at h <;> cases h <;> rfl

theorem ofMiscCode?_wants {x : Register} {code : Nat} (h : ofMiscCode? x code = some instruction) :
    instruction.wants =
      if code = 0x33 then 3 else if code ∈ [0x55, 0x65] then (x : Nat) + 1 else 0 := by
  unfold ofMiscCode? at h
  split at h <;> cases h <;> rfl

/-! ### What a word decodes to -/

/-- The first digit is the group. -/
theorem Digits.instruction?_group {d : Digits} (h : d.instruction? = some instruction) :
    d.group = instruction.group := by
  unfold Digits.instruction? at h
  split at h
  case h_1 hgroup =>
    split at h
    · cases h
      exact hgroup
    · split at h <;> cases h
      exact hgroup
  case h_9 hgroup =>
    obtain ⟨computation, -, rfl⟩ := Option.map_eq_some_iff.1 h
    exact hgroup
  case h_15 hgroup =>
    split at h
    · cases h
      exact hgroup
    · split at h <;> cases h
      exact hgroup
  case h_16 hgroup => rw [hgroup, ofMiscCode?_group h]
  all_goals
    cases h
  all_goals assumption

theorem ofWord?_group (h : ofWord? word = some instruction) :
    word / 0x1000 = instruction.group :=
  Digits.instruction?_group h

/-- The unassigned words are those that decode to nothing. -/
theorem ofWord?_eq_none_iff (h : word < 0x10000) : ofWord? word = none ↔ Unassigned word := by
  unfold Unassigned
  by_cases hzero : word / 0x1000 = 0x0
  · rw [ofWord?_zero hzero]
    simp only [hzero]
    split <;> simp_all
  · by_cases hkeys : word / 0x1000 = 0xE
    · rw [ofWord?_keys hkeys]
      simp only [hkeys]
      split <;> simp_all
    · obtain ⟨group, hgroup⟩ : ∃ group, word / 0x1000 = group := ⟨_, rfl⟩
      rw [ofWord?_of_group hgroup]
      rw [hgroup] at hzero hkeys ⊢
      unfold Digits.instruction?
      dsimp only
      split
      case h_1 => exact absurd rfl hzero
      case h_9 =>
        rw [Option.map_eq_none_iff, ofCode?_eq_none_iff (lengthOf word).isLt]
        show word % 0x10 ∈ _ ↔ _
        simp
      case h_15 => exact absurd rfl hkeys
      case h_16 =>
        rw [ofMiscCode?_eq_none_iff]
        show (byteOf word).toNat ∉ _ ↔ _
        simp [toNat_byteOf]
      case h_17 =>
        exfalso
        simp only [imp_false] at *
        omega
      all_goals simp

theorem reach_of_unassigned (h : Unassigned word) : reach word = 0 := by
  unfold reach
  rcases h with ⟨hgroup, -, -⟩ | ⟨hgroup, -⟩ | ⟨hgroup, -⟩ | ⟨hgroup, hcode⟩
  · simp [hgroup]
  · simp [hgroup]
  · simp [hgroup]
  · simp only [List.mem_cons, List.not_mem_nil, or_false, not_or] at hcode
    simp [hgroup, hcode]

theorem ofWord?_eq_ret_iff : ofWord? word = some ret ↔ word = 0x00EE := by
  constructor
  · intro h
    rw [ofWord?_zero (ofWord?_group h)] at h
    split at h
    · cases h
    · split at h
      · assumption
      · cases h
  · rintro rfl
    rfl

theorem ofWord?_eq_call_iff : (∃ nnn, ofWord? word = some (call nnn)) ↔ word / 0x1000 = 0x2 := by
  constructor
  · rintro ⟨nnn, h⟩
    exact ofWord?_group h
  · intro hgroup
    exact ⟨addressOf word, ofWord?_of_group hgroup⟩

theorem ofWord?_ofAddress_jump (nnn : ShortAddress) :
    ofWord? (ofAddress 0x1 nnn) = some (jump nnn) := by
  rw [ofWord?_of_group (ofAddress_group nnn)]
  exact congrArg (some ∘ jump) (addressOf_ofAddress nnn)

theorem ofWord?_ofAddress_call (nnn : ShortAddress) :
    ofWord? (ofAddress 0x2 nnn) = some (call nnn) := by
  rw [ofWord?_of_group (ofAddress_group nnn)]
  exact congrArg (some ∘ call) (addressOf_ofAddress nnn)

theorem ofWord?_ofAddress_jumpAhead (nnn : ShortAddress) :
    ofWord? (ofAddress 0xB nnn) = some (jumpAhead nnn) := by
  rw [ofWord?_of_group (ofAddress_group nnn)]
  exact congrArg (some ∘ jumpAhead) (addressOf_ofAddress nnn)

/-- Whether a word skips under a condition.  Where two registers are compared, the last digit does
not matter. -/
def SkipsUnder (word : Nat) : Condition → Prop
  | .equalsByte x kk => word = ofByte 0x3 x kk
  | .differsFromByte x kk => word = ofByte 0x4 x kk
  | .equals x y => ∃ n, word = ofRegisters 0x5 x y n
  | .differs x y => ∃ n, word = ofRegisters 0x9 x y n
  | .keyDown x => word = ofByte 0xE x 0x9E
  | .keyUp x => word = ofByte 0xE x 0xA1

theorem ofWord?_eq_skip_iff {condition : Condition} :
    ofWord? word = some (skip condition) ↔ SkipsUnder word condition := by
  constructor
  · intro h
    have hbyte := ofByte_byteOf word
    have hregisters := ofRegisters_lengthOf word
    have hgroup := ofWord?_group h
    rw [hgroup] at hbyte hregisters
    cases condition with
    | equalsByte x kk | differsFromByte x kk =>
        rw [ofWord?_of_group hgroup] at h
        simp only [Digits.instruction?, group] at h
        cases h
        exact hbyte.symm
    | equals x y | differs x y =>
        rw [ofWord?_of_group hgroup] at h
        simp only [Digits.instruction?, group] at h
        cases h
        exact ⟨_, hregisters.symm⟩
    | keyDown x =>
        rw [ofWord?_keys hgroup] at h
        split at h
        · rename_i hcode
          cases h
          rw [byteOf, hcode] at hbyte
          exact hbyte.symm
        · split at h <;> cases h
    | keyUp x =>
        rw [ofWord?_keys hgroup] at h
        split at h
        · cases h
        · split at h
          · rename_i hcode
            cases h
            rw [byteOf, hcode] at hbyte
            exact hbyte.symm
          · cases h
  · intro h
    cases condition with
    | equalsByte x kk | differsFromByte x kk | keyDown x | keyUp x =>
        cases h
        simp [ofWord?, Digits.ofWord, Digits.instruction?]
    | equals x y | differs x y =>
        obtain ⟨n, rfl⟩ := h
        simp [ofWord?, Digits.ofWord, Digits.instruction?]

/-- What a word asks for is what its instruction asks for. -/
theorem ofWord?_wants (h : ofWord? word = some instruction) : instruction.wants = reach word := by
  have hgroup := ofWord?_group h
  unfold reach
  by_cases hdraw : word / 0x1000 = 0xD
  · rw [ofWord?_draw hdraw] at h
    cases h
    rw [if_pos hdraw]
    rfl
  · by_cases hmisc : word / 0x1000 = 0xF
    · rw [ofWord?_misc hmisc] at h
      rw [ofMiscCode?_wants h]
      simp [hmisc, xOf]
    · rw [if_neg hdraw, if_neg (by omega), if_neg (by omega)]
      cases instruction with
      | draw x y n => exact absurd hgroup hdraw
      | storeDecimal x => exact absurd hgroup hmisc
      | store x => exact absurd hgroup hmisc
      | restore x => exact absurd hgroup hmisc
      | _ => rfl

end ChipEight.Instruction
