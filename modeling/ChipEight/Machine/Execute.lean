/-
Executing instructions.

`perform` carries one instruction out, on a machine whose program counter has moved on
to the next one already: a jump overwrites it, a call saves it, a skip moves it once
more.

`execute` and `step` are the two ways in.  The first takes an operand from outside and
does not move the program counter; the second fetches one.  An instruction checks what
it needs before it changes anything, and so a fault finds the machine as it was but for
two things: the operand, which shows what was tried, and the program counter, which
`step` puts back.
-/
import ChipEight.Machine.Action

namespace ChipEight

/-- The result of a computation and the flag it raises, if it has one. -/
def Computation.apply : Computation → UInt8 → UInt8 → UInt8 × Option Bool
  | copy, _, b => (b, none)
  | or, a, b => (a ||| b, none)
  | and, a, b => (a &&& b, none)
  | xor, a, b => (a ^^^ b, none)
  | add, a, b => (a + b, some (255 < a.toNat + b.toNat))
  | sub, a, b => (a - b, some (b < a))
  | shiftRight, a, _ => (a >>> 1, some (a &&& 1 = 1))
  | subFrom, a, b => (b - a, some (a < b))
  | shiftLeft, a, _ => (a <<< 1, some (a &&& 0x80 = 0x80))

namespace Cpu

/-- Sets the flag register. -/
def setFlag (c : Cpu) (flag : Bool) : Cpu := c.setReg .flag (if flag then 1 else 0)

/-- Carries a computation out.  The flag is set last, and so it wins when the result was to
go to the flag register. -/
def compute (c : Cpu) (computation : Computation) (x y : Register) : Cpu :=
  match computation.apply (c.reg x) (c.reg y) with
  | (result, none) => c.setReg x result
  | (result, some flag) => (c.setReg x result).setFlag flag

/-- The registers from `V0` to `Vx`. -/
def firstRegs (c : Cpu) (x : Register) : List UInt8 := c.v.toList.take (x + 1)

/-- Sets the registers from `V0` to `Vx`. -/
def setFirstRegs (c : Cpu) (x : Register) (values : List UInt8) : Cpu :=
  { c with v := Vector.ofFn fun i => if i ≤ x then values.getD i 0 else c.reg i }

end Cpu

namespace Machine

/-- Whether a condition holds. -/
def holds (m : Machine) : Condition → Bool
  | .equalsByte x kk => m.cpu.reg x = kk
  | .differsFromByte x kk => m.cpu.reg x ≠ kk
  | .equals x y => m.cpu.reg x = m.cpu.reg y
  | .differs x y => m.cpu.reg x ≠ m.cpu.reg y
  | .keyDown x => keyDown x
  | .keyUp x => !keyDown x
where
  /-- Whether the key with the number in a register is down.  Only numbers below sixteen
  are keys. -/
  keyDown (x : Register) : Bool :=
    m.cpu.reg x < 16 && m.keypad.isPressed (m.cpu.reg x).toNat

/-- The three decimal digits of a byte. -/
def decimalDigits (value : UInt8) : List UInt8 := [value / 100, value / 10 % 10, value % 10]

open ChipEight.Machine.Action

/-- Carries one instruction out, the program counter having moved on already. -/
def perform : Instruction → Action Unit
  | .clear => modify fun m => { m with screen := m.screen.cleared }
  | .ret => do
    match (← getCpu).stack with
    | [] => raise .stackUnderflow
    | address :: rest => modifyCpu fun c => { c with pc := address, stack := rest }
  | .jump nnn => modifyCpu fun c => { c with pc := (nnn : Nat) }
  | .call nnn => do
    let m ← get
    if m.stackDepth ≤ m.cpu.stack.length then raise (.stackOverflow m.stackDepth)
    else modifyCpu fun c => { c with pc := (nnn : Nat), stack := c.pc :: c.stack }
  | .skip condition => do
    if (← get).holds condition then modifyCpu Cpu.advance
  | .load x kk => modifyCpu fun c => c.setReg x kk
  | .add x kk => modifyCpu fun c => c.setReg x (c.reg x + kk)
  | .compute computation x y => modifyCpu fun c => c.compute computation x y
  | .loadIndex nnn => modifyCpu fun c => { c with index := (nnn : Nat) }
  | .jumpAhead nnn => modifyCpu fun c => { c with pc := (c.reg .base).toNat + (nnn : Nat) }
  | .random x kk => do
    let number ← drawRandom
    modifyCpu fun c => c.setReg x (kk &&& UInt8.ofInt number)
  | .draw x y n => do
    let c ← getCpu
    let rows ← askMemory (·.readBytes c.index (n : Nat))
    let collision ← drawSprite (c.reg x).toNat (c.reg y).toNat rows
    modifyCpu fun c => c.setFlag collision
  | .readDelay x => modifyCpu fun c => c.setReg x (UInt8.ofInt c.delay)
  | .awaitKey x => modifyCpu fun c => { c with mode := .awaitingKey x }
  | .setDelay x => modifyCpu fun c => { c with delay := (c.reg x).toNat }
  | .setSound x => do
    modifyCpu fun c => { c with sound := (c.reg x).toNat }
    let c ← getCpu
    if c.reg x ≠ 0 then playTone (c.reg x)
  | .addIndex x => modifyCpu fun c => { c with index := c.index + (c.reg x).toNat }
  | .loadDigit x => modifyCpu fun c => { c with index := Font.addressOf (c.reg x).toNat }
  | .storeDecimal x => do
    let c ← getCpu
    store c.index (decimalDigits (c.reg x))
  | .store x => do
    let c ← getCpu
    store c.index (c.firstRegs x)
  | .restore x => do
    let c ← getCpu
    let values ← askMemory (·.readBytes c.index ((x : Nat) + 1))
    modifyCpu fun c => c.setFirstRegs x values

/-- Executes an operand that was not fetched, with the program counter where it is. -/
def execute (operand : Int) : Action Unit := do
  modifyCpu fun c => { c with operand := operand }
  match Instruction.decode operand with
  | none => raise (.unknownOpcode operand none)
  | some instruction => perform instruction

/-- Puts the program counter back to an instruction that did not come to its end. -/
def putBack (address : Int) : Stop → Action Unit
  | .fault fault => do
    modifyCpu fun c => { c with pc := address }
    raise (fault.locatedAt address)
  | .crash crash => throw (.crash crash)

/-- Fetches the operand at the program counter and executes it.  The answer is the operand. -/
def step : Action Nat := do
  let address := (← getCpu).pc
  let operand ← askMemory (·.readWord address)
  modifyCpu Cpu.advance
  tryCatch (execute operand) (putBack address)
  return operand

end Machine

end ChipEight
