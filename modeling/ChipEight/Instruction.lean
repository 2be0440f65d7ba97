/-
The instruction set.

An operand is sixteen bits, read as four hexadecimal digits: the first names the
group, and in most groups the second and third name registers `x` and `y`.  The last
two digits make a byte `kk`, the last three an address `nnn`, the last one a length
`n`.

`decode` takes any integer and cuts the digits out of it with masks, so that it looks at
its low sixteen bits only.  Some operands are no instruction; some digits are not looked
at, so that several operands are one instruction.
-/

namespace ChipEight

/-- One of the registers `V0` to `VF`. -/
abbrev Register := Fin 16

/-- An address as an operand holds one: three digits. -/
abbrev ShortAddress := Fin 0x1000

/-- The register that jumps are counted from. -/
def Register.base : Register := 0

/-- The register that receives carries, borrows and collisions. -/
def Register.flag : Register := 15

/-- The instructions that compute from two registers into the first. -/
inductive Computation where
  /-- `8xy0`: the second register. -/
  | copy
  /-- `8xy1`. -/
  | or
  /-- `8xy2`. -/
  | and
  /-- `8xy3`. -/
  | xor
  /-- `8xy4`: the sum, and its carry. -/
  | add
  /-- `8xy5`: the first less the second, and whether the first was greater. -/
  | sub
  /-- `8xy6`: the first shifted right, and the bit that fell out. -/
  | shiftRight
  /-- `8xy7`: the second less the first, and whether the second was greater. -/
  | subFrom
  /-- `8xyE`: the first shifted left, and the bit that fell out. -/
  | shiftLeft
  deriving DecidableEq, Repr

/-- What decides whether the next instruction is skipped. -/
inductive Condition where
  /-- `3xkk`. -/
  | equalsByte (x : Register) (kk : UInt8)
  /-- `4xkk`. -/
  | differsFromByte (x : Register) (kk : UInt8)
  /-- `5xy_`. -/
  | equals (x y : Register)
  /-- `9xy_`. -/
  | differs (x y : Register)
  /-- `Ex9E`: the key with the number in the register is down. -/
  | keyDown (x : Register)
  /-- `ExA1`: the key is up, or there is no key with that number. -/
  | keyUp (x : Register)
  deriving DecidableEq, Repr

/-- An instruction. -/
inductive Instruction where
  /-- `00E0`: all pixels off. -/
  | clear
  /-- `00EE`: back to behind the last call. -/
  | ret
  /-- `1nnn`. -/
  | jump (nnn : ShortAddress)
  /-- `2nnn`. -/
  | call (nnn : ShortAddress)
  | skip (condition : Condition)
  /-- `6xkk`. -/
  | load (x : Register) (kk : UInt8)
  /-- `7xkk`: adds, without a carry. -/
  | add (x : Register) (kk : UInt8)
  | compute (computation : Computation) (x y : Register)
  /-- `Annn`. -/
  | loadIndex (nnn : ShortAddress)
  /-- `Bnnn`: jumps to the address plus `V0`. -/
  | jumpAhead (nnn : ShortAddress)
  /-- `Cxkk`: a random byte under a mask. -/
  | random (x : Register) (kk : UInt8)
  /-- `Dxyn`: draws `n` rows from memory at the place in two registers. -/
  | draw (x y : Register) (n : Fin 16)
  /-- `Fx07`: reads the delay timer. -/
  | readDelay (x : Register)
  /-- `Fx0A`: waits for a key. -/
  | awaitKey (x : Register)
  /-- `Fx15`. -/
  | setDelay (x : Register)
  /-- `Fx18`: sets the sound timer, and sounds the tone. -/
  | setSound (x : Register)
  /-- `Fx1E`: adds to the index register. -/
  | addIndex (x : Register)
  /-- `Fx29`: points the index register to the sprite of a digit. -/
  | loadDigit (x : Register)
  /-- `Fx33`: writes the three decimal digits of a register to memory. -/
  | storeDecimal (x : Register)
  /-- `Fx55`: writes `V0` to `Vx` to memory. -/
  | store (x : Register)
  /-- `Fx65`: reads `V0` to `Vx` from memory. -/
  | restore (x : Register)
  deriving DecidableEq, Repr

namespace Computation

/-- The computation with a last digit. -/
def ofCode? : Nat → Option Computation
  | 0x0 => some copy
  | 0x1 => some or
  | 0x2 => some and
  | 0x3 => some xor
  | 0x4 => some add
  | 0x5 => some sub
  | 0x6 => some shiftRight
  | 0x7 => some subFrom
  | 0xE => some shiftLeft
  | _ => none

end Computation

namespace Instruction

/-- What a mask cuts out of an operand.  One that is below zero has the bits of its complement,
turned around. -/
def cut (operand : Int) (mask : Nat) : Nat :=
  match operand with
  | .ofNat n => n &&& mask
  | .negSucc n => (n ^^^ mask) &&& mask

theorem cut_le (operand : Int) (mask : Nat) : cut operand mask ≤ mask := by
  cases operand with
  | ofNat n => exact Nat.and_le_right
  | negSucc n => exact Nat.and_le_right

/-- The digits of an operand, as instructions are told apart by them and made of them. -/
@[ext]
structure Digits where
  /-- The first digit. -/
  group : Nat
  /-- The second digit. -/
  x : Register
  /-- The third digit. -/
  y : Register
  /-- The last three digits. -/
  nnn : ShortAddress
  /-- The last two digits. -/
  kk : UInt8
  /-- The last digit. -/
  n : Fin 16
  deriving DecidableEq, Repr

/-- The digits of an operand, each cut out by a mask. -/
def Digits.ofOperand (operand : Int) : Digits where
  group := cut operand 0xF000 >>> 12
  x := ⟨cut operand 0x0F00 >>> 8, by have hmask := cut_le operand 0x0F00; omega⟩
  y := ⟨cut operand 0x00F0 >>> 4, by have hmask := cut_le operand 0x00F0; omega⟩
  nnn := ⟨cut operand 0x0FFF, Nat.lt_succ_of_le (cut_le operand 0x0FFF)⟩
  kk := UInt8.ofNatLT (cut operand 0x00FF) (Nat.lt_succ_of_le (cut_le operand 0x00FF))
  n := ⟨cut operand 0x000F, Nat.lt_succ_of_le (cut_le operand 0x000F)⟩

/-- The instructions of the group `F`, told apart by their last two digits. -/
def ofMiscCode? (x : Register) : Nat → Option Instruction
  | 0x07 => some (readDelay x)
  | 0x0A => some (awaitKey x)
  | 0x15 => some (setDelay x)
  | 0x18 => some (setSound x)
  | 0x1E => some (addIndex x)
  | 0x29 => some (loadDigit x)
  | 0x33 => some (storeDecimal x)
  | 0x55 => some (store x)
  | 0x65 => some (restore x)
  | _ => none

/-- The instruction with some digits, if there is one. -/
def Digits.instruction? (d : Digits) : Option Instruction :=
  match d.group with
  | 0x0 => if d.nnn = 0x0E0 then some clear else if d.nnn = 0x0EE then some ret else none
  | 0x1 => some (jump d.nnn)
  | 0x2 => some (call d.nnn)
  | 0x3 => some (skip (.equalsByte d.x d.kk))
  | 0x4 => some (skip (.differsFromByte d.x d.kk))
  | 0x5 => some (skip (.equals d.x d.y))
  | 0x6 => some (load d.x d.kk)
  | 0x7 => some (add d.x d.kk)
  | 0x8 => (Computation.ofCode? d.n).map fun computation => compute computation d.x d.y
  | 0x9 => some (skip (.differs d.x d.y))
  | 0xA => some (loadIndex d.nnn)
  | 0xB => some (jumpAhead d.nnn)
  | 0xC => some (random d.x d.kk)
  | 0xD => some (draw d.x d.y d.n)
  | 0xE =>
    if d.kk.toNat = 0x9E then some (skip (.keyDown d.x))
    else if d.kk.toNat = 0xA1 then some (skip (.keyUp d.x))
    else none
  | 0xF => ofMiscCode? d.x d.kk.toNat
  | _ => none

/-- The instruction of an operand, if it is one. -/
def decode (operand : Int) : Option Instruction := (Digits.ofOperand operand).instruction?

end Instruction

end ChipEight
