/-
The arithmetic of the instructions, in numbers.

An instruction that computes takes two registers and writes to the first, and most of them raise a
flag, which goes to a register of its own.  These may all be the same register.  What is written
is told here by two tables of plain numbers, `result` and `raised?`, and both are taken of what the
registers held before the instruction: nothing is read after something was written.  The flag is
written last, and so a result that was to go to the flag register is lost.
-/
import Mathlib.Data.Nat.Bitwise
import ChipEight.Proofs.Completion

namespace ChipEight

namespace Computation

/-- The number of a computation in its group. -/
def code : Computation → Nat
  | copy => 0x0
  | or => 0x1
  | and => 0x2
  | xor => 0x3
  | add => 0x4
  | sub => 0x5
  | shiftRight => 0x6
  | subFrom => 0x7
  | shiftLeft => 0xE

theorem code_lt (computation : Computation) : computation.code < 16 := by
  cases computation <;> decide

/-- The last digit of the words of a computation. -/
def digit (computation : Computation) : Fin 16 := ⟨computation.code, computation.code_lt⟩

/-- What a computation makes of two bytes. -/
def result : Computation → Nat → Nat → Nat
  | copy, _, b => b
  | or, a, b => a ||| b
  | and, a, b => a &&& b
  | xor, a, b => a ^^^ b
  | add, a, b => (a + b) % 256
  | sub, a, b => ((a - b : Int) % 256).toNat
  | shiftRight, a, _ => a / 2
  | subFrom, a, b => ((b - a : Int) % 256).toNat
  | shiftLeft, a, _ => 2 * a % 256

/-- The flag that a computation raises: a carry, whether the byte that is subtracted from is the
greater one, or the bit that falls out. -/
def raised? : Computation → Nat → Nat → Option Nat
  | add, a, b => some ((a + b) / 256)
  | sub, a, b => some (if b < a then 1 else 0)
  | shiftRight, a, _ => some (a % 2)
  | subFrom, a, b => some (if a < b then 1 else 0)
  | shiftLeft, a, _ => some (a / 128)
  | _, _, _ => none

variable (computation : Computation)

theorem ofCode?_digit : ofCode? computation.digit = some computation := by
  cases computation <;> rfl

theorem toNat_apply (a b : UInt8) :
    (computation.apply a b).1.toNat = computation.result a.toNat b.toNat := by
  have ha := a.toNat_lt
  have hb := b.toNat_lt
  cases computation with
  | copy => rfl
  | or => exact UInt8.toNat_or a b
  | and => exact UInt8.toNat_and a b
  | xor => exact UInt8.toNat_xor a b
  | add => exact UInt8.toNat_add a b
  | sub =>
      show (a - b).toNat = _
      rw [UInt8.toNat_sub, result]
      omega
  | shiftRight =>
      show (a >>> 1).toNat = _
      rw [UInt8.toNat_shiftRight]
      exact Nat.shiftRight_one _
  | subFrom =>
      show (b - a).toNat = _
      rw [UInt8.toNat_sub, result]
      omega
  | shiftLeft =>
      show (a <<< 1).toNat = _
      rw [UInt8.toNat_shiftLeft, result, Nat.mul_comm]
      exact congrArg (· % 256) (Nat.shiftLeft_eq a.toNat 1)

theorem toNat_decide (p : Prop) [Decidable p] : (decide p).toNat = if p then 1 else 0 :=
  apply_ite Bool.toNat p true false

theorem bit_zero_iff (a : UInt8) : a &&& 1 = 1 ↔ a.toNat % 2 = 1 := by
  rw [← UInt8.toNat_inj, UInt8.toNat_and]
  exact iff_of_eq (congrArg (· = 1) (Nat.and_one_is_mod a.toNat))

theorem bit_seven_iff (a : UInt8) : a &&& 0x80 = 0x80 ↔ 128 ≤ a.toNat := by
  have ha := a.toNat_lt
  have hmask : a.toNat &&& 128 = (a.toNat.testBit 7).toNat * 128 := Nat.and_two_pow a.toNat 7
  have hbit : a.toNat.testBit 7 = decide (a.toNat / 128 % 2 = 1) := Nat.testBit_eq_decide_div_mod_eq
  rw [← UInt8.toNat_inj, UInt8.toNat_and]
  show a.toNat &&& 128 = 128 ↔ _
  rw [hmask, hbit, toNat_decide]
  split <;> omega

theorem flag_apply (a b : UInt8) :
    (computation.apply a b).2.map Bool.toNat = computation.raised? a.toNat b.toNat := by
  have ha := a.toNat_lt
  have hb := b.toNat_lt
  cases computation with
  | copy | or | and | xor => rfl
  | add =>
      simp only [apply, raised?, Option.map_some, toNat_decide, Option.some_inj]
      split <;> omega
  | sub =>
      simp only [apply, raised?, Option.map_some, toNat_decide, UInt8.lt_iff_toNat_lt]
  | shiftRight =>
      simp only [apply, raised?, Option.map_some, toNat_decide, bit_zero_iff, Option.some_inj]
      split <;> omega
  | subFrom =>
      simp only [apply, raised?, Option.map_some, toNat_decide, UInt8.lt_iff_toNat_lt]
  | shiftLeft =>
      simp only [apply, raised?, Option.map_some, toNat_decide, bit_seven_iff, Option.some_inj]
      split <;> omega

end Computation

namespace Cpu

variable (c : Cpu) (x : Register)

/-- What a register holds when a result has gone to the register `x`, and after it a flag, if one
was raised, to the flag register. -/
def contents (result : Nat) (raised? : Option Nat) (z : Register) : Nat :=
  let written := if z = x then result else (c.reg z).toNat
  if z = .flag then raised?.getD written else written

theorem toNat_reg_setReg (value : UInt8) (z : Register) :
    ((c.setReg x value).reg z).toNat = c.contents x value.toNat none z := by
  rw [reg_setReg, contents, Option.getD_none, ite_self]
  exact apply_ite UInt8.toNat (z = x) value (c.reg z)

theorem toNat_reg_setFlag (flag : Bool) (z : Register) :
    ((c.setFlag flag).reg z).toNat = if z = .flag then flag.toNat else (c.reg z).toNat := by
  rw [setFlag, reg_setReg, apply_ite UInt8.toNat]
  cases flag <;> rfl

theorem toNat_reg_compute (computation : Computation) (y z : Register) :
    ((c.compute computation x y).reg z).toNat =
      c.contents x (computation.result (c.reg x).toNat (c.reg y).toNat)
        (computation.raised? (c.reg x).toNat (c.reg y).toNat) z := by
  rw [compute, ← computation.toNat_apply, ← computation.flag_apply]
  split
  · rename_i hunflagged
    rw [hunflagged]
    exact c.toNat_reg_setReg x _ z
  · rename_i hflagged
    rw [hflagged, toNat_reg_setFlag, toNat_reg_setReg]
    simp only [contents, Option.map_some, Option.getD_some, Option.getD_none, ite_self]

end Cpu

namespace Machine

open Instruction

variable {m : Machine} {x y : Register}

/-- Whether an operand does nothing but to send a result to a register and, if it raises one, a
flag to the flag register.  In a step the program counter moves on besides. -/
def Receives (m : Machine) (operand : Nat) (x : Register) (result : Nat)
    (raised? : Option Nat) : Prop :=
  ∃ after : Machine, (execute operand).run m = .ok () after ∧
    (m.memory.readWord m.cpu.pc = .ok operand →
      step.run m = .ok operand (after.onCpu Cpu.advance)) ∧
    (∀ z, (after.cpu.reg z).toNat = m.cpu.contents x result raised? z) ∧
    after = { m with cpu := { m.cpu with v := after.cpu.v, operand := operand } }

theorem receives {instruction : Instruction} {change : Cpu → Cpu} {operand result : Nat}
    {raised? : Option Nat} (hdecode : decode operand = some instruction)
    (hperform : ∀ m, (perform instruction).run m = .ok () (m.onCpu change))
    (hchange : Cpu.OnRegisters change)
    (hcontents : ∀ z, ((change m.cpu).reg z).toNat = m.cpu.contents x result raised? z) :
    m.Receives operand x result raised? := by
  -- What is executed reads the same registers with the program counter here or there.
  have hexecute : ∀ pc : Int, (execute operand).run (m.onCpu ({ · with pc := pc })) =
      .ok () (m.onCpu fun c => { c with v := (change c).v, pc := pc, operand := operand }) := by
    intro pc
    simp only [run_execute, hdecode, hperform]
    exact congrArg (fun cpu : Cpu => EStateM.Result.ok () { m with cpu := cpu })
      (hchange m.cpu { m.cpu with pc := pc, operand := operand } rfl)
  refine ⟨_, hexecute m.cpu.pc, fun hfetch => ?_, hcontents, rfl⟩
  exact run_step_of_execute hfetch (hexecute (m.cpu.pc + Cpu.instructionSize))

theorem decode_compute (computation : Computation) :
    decode (ofRegisters 0x8 x y computation.digit) = some (compute computation x y) := by
  rw [decode_word (ofRegisters_lt x y _ (by decide)), ofWord?_of_group (ofRegisters_group x y _),
    xOf_ofRegisters, yOf_ofRegisters, lengthOf_ofRegisters]
  exact congrArg (Option.map _) (Computation.ofCode?_digit computation)

theorem decode_add (kk : UInt8) : decode (ofByte 0x7 x kk) = some (add x kk) := by
  rw [decode_word (ofByte_lt x kk (by decide)), ofWord?_of_group (ofByte_group x kk), xOf_ofByte,
    byteOf_ofByte]
  rfl

/-- **Every operation is computed from what the registers held before it.**  Whichever registers an
instruction names, its result and its flag are those of the two tables; the result goes to the
first register, and the flag to the flag register even where that is the first one.  The
operations that have no flag leave the flag register as they leave any other, and nothing else
changes but the operand. -/
theorem computes_from_held (m : Machine) (x : Register) :
    (∀ (computation : Computation) (y : Register),
      m.Receives (ofRegisters 0x8 x y computation.digit) x
        (computation.result (m.cpu.reg x).toNat (m.cpu.reg y).toNat)
        (computation.raised? (m.cpu.reg x).toNat (m.cpu.reg y).toNat)) ∧
    ∀ kk : UInt8,
      m.Receives (ofByte 0x7 x kk) x (((m.cpu.reg x).toNat + kk.toNat) % 256) none := by
  constructor
  · intro computation y
    exact receives (decode_compute computation) (fun _ => rfl)
      (Cpu.onRegisters_compute computation x y) (m.cpu.toNat_reg_compute x computation y)
  · intro kk
    refine receives (decode_add kk) (fun _ => rfl) ?_ ?_
    · intro c c' hv
      simp only [Cpu.setReg, Cpu.reg, hv]
    · intro z
      rw [Cpu.toNat_reg_setReg, UInt8.toNat_add]

/-- A machine that is to add the flag register to itself. -/
def doubling : Machine :=
  { Machine.poweredOn ⟨#[0x8F, 0xF4]⟩ 16 none (.cycle []) with
    cpu := { Cpu.initial.setReg .flag 200 with pc := 0 } }

/-- The sum is lost, and its carry stays. -/
theorem doubling_carries :
    ∃ after, (execute 0x8FF4).run doubling = .ok () after ∧
      step.run doubling = .ok 0x8FF4 (after.onCpu Cpu.advance) ∧
      (after.cpu.reg .flag).toNat = 1 := by
  obtain ⟨after, hexecute, hstep, hregs, -⟩ :=
    (computes_from_held doubling .flag).1 .add .flag
  exact ⟨after, hexecute, hstep rfl, hregs .flag⟩

end Machine

end ChipEight
