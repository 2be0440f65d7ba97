/-
Well-formed machines.

The types keep the registers in their eight bits and the arrays of the keypad at sixteen
keys.  What they do not keep is said here: the numbers that are integers lie in a range,
the stack is not too deep and holds return addresses only, memory has the size it was made
with, and the picture is coherent.

The program counter is the delicate one.  It can leave memory, but not by much: a step only
begins inside, so moving on and skipping add at most four to an address of memory, and a
jump goes to an address of three digits or, from there, ahead by one byte.  For the same
reason what a call saves is an address that an instruction ended at.  So an instruction
begins with more than a well-formed machine has in general, and that is `Fetched`.

No well-formed machine crashes.
-/
import ChipEight.Proofs.Atomicity
import ChipEight.Proofs.Screen

namespace ChipEight

/-- The numbers of the processor lie in their ranges, in a machine with so many bytes of memory
that allows so many calls. -/
structure Cpu.InRange (size depth : Int) (c : Cpu) : Prop where
  index : 0 ≤ c.index
  pc : 0 ≤ c.pc ∧ c.pc ≤ max (size + 2) 0x10FE
  delay : 0 ≤ c.delay ∧ c.delay ≤ 255
  sound : 0 ≤ c.sound ∧ c.sound ≤ 255
  nesting : (c.stack.length : Int) ≤ max depth 0
  stack : ∀ address ∈ c.stack, 2 ≤ address ∧ address ≤ size

/-- What holds of a machine between two instructions. -/
structure Machine.WellFormed (size depth : Int) (m : Machine) : Prop where
  memory : (m.memory.size : Int) = size
  calls : m.stackDepth = depth
  cpu : m.cpu.InRange size depth
  screen : m.screen.Coherent Screen.standardWidth Screen.standardHeight

/-- What holds of a machine when an instruction begins: the program counter has moved over an
instruction that lies in memory. -/
structure Machine.Fetched (size depth : Int) (m : Machine) : Prop extends
    m.WellFormed size depth where
  low : 2 ≤ m.cpu.pc
  high : m.cpu.pc ≤ size

variable {size depth : Int}

/-! ### The processor -/

namespace Cpu

variable {c : Cpu}

theorem inRange_initial : initial.InRange size depth where
  index := by decide
  pc := by simp only [initial, programStart]; omega
  delay := by decide
  sound := by decide
  nesting := by simp only [initial, List.length_nil]; omega
  stack := by simp [initial]

theorem InRange.goto (h : c.InRange size depth) {address : Int}
    (haddress : 0 ≤ address ∧ address ≤ max (size + 2) 0x10FE) :
    ({ c with pc := address } : Cpu).InRange size depth :=
  ⟨h.index, haddress, h.delay, h.sound, h.nesting, h.stack⟩

theorem InRange.point (h : c.InRange size depth) {address : Int} (haddress : 0 ≤ address) :
    ({ c with index := address } : Cpu).InRange size depth :=
  ⟨haddress, h.pc, h.delay, h.sound, h.nesting, h.stack⟩

/-- A return takes an address from the stack. -/
theorem InRange.pop (h : c.InRange size depth) {address : Int} {rest : List Int}
    (hstack : c.stack = address :: rest) :
    ({ c with pc := address, stack := rest } : Cpu).InRange size depth := by
  have haddress := h.stack address (by simp [hstack])
  have hnesting := h.nesting
  rw [hstack, List.length_cons] at hnesting
  refine ⟨h.index, ?_, h.delay, h.sound, ?_, ?_⟩
  · show 0 ≤ address ∧ address ≤ _
    omega
  · show (rest.length : Int) ≤ _
    omega
  · intro saved hsaved
    exact h.stack saved (by rw [hstack]; exact List.mem_cons_of_mem _ hsaved)

/-- A call saves the address after it, and there was room for one more. -/
theorem InRange.push (h : c.InRange size depth) (hpc : 2 ≤ c.pc ∧ c.pc ≤ size)
    (hroom : (c.stack.length : Int) < depth) (nnn : ShortAddress) :
    ({ c with pc := (nnn : Nat), stack := c.pc :: c.stack } : Cpu).InRange size depth := by
  refine ⟨h.index, ?_, h.delay, h.sound, ?_, ?_⟩
  · show 0 ≤ ((nnn : Nat) : Int) ∧ ((nnn : Nat) : Int) ≤ _
    omega
  · show ((c.pc :: c.stack).length : Int) ≤ _
    rw [List.length_cons]
    omega
  · intro saved hsaved
    rcases List.mem_cons.1 hsaved with rfl | hsaved
    · exact hpc
    · exact h.stack saved hsaved

/-- No register that holds a byte matters. -/
theorem InRange.withRegs (h : c.InRange size depth) (v : Vector UInt8 16) :
    ({ c with v := v } : Cpu).InRange size depth :=
  ⟨h.index, h.pc, h.delay, h.sound, h.nesting, h.stack⟩

theorem InRange.withMode (h : c.InRange size depth) (mode : Mode) :
    ({ c with mode := mode } : Cpu).InRange size depth :=
  ⟨h.index, h.pc, h.delay, h.sound, h.nesting, h.stack⟩

theorem InRange.withOperand (h : c.InRange size depth) (operand : Int) :
    ({ c with operand := operand } : Cpu).InRange size depth :=
  ⟨h.index, h.pc, h.delay, h.sound, h.nesting, h.stack⟩

theorem InRange.compute (h : c.InRange size depth) (computation : Computation) (x y : Register) :
    (c.compute computation x y).InRange size depth := by
  rw [Cpu.compute_eq]
  exact h.withRegs _

theorem countDown_bounds {timer : Int} (h : 0 ≤ timer ∧ timer ≤ 255) :
    0 ≤ countDown timer ∧ countDown timer ≤ 255 := by
  unfold countDown
  split <;> omega

theorem InRange.decrementTimers (h : c.InRange size depth) :
    c.decrementTimers.InRange size depth :=
  ⟨h.index, h.pc, countDown_bounds h.delay, countDown_bounds h.sound, h.nesting, h.stack⟩

theorem InRange.resolveKey (h : c.InRange size depth) (key : Int) :
    (c.resolveKey key).InRange size depth := by
  unfold Cpu.resolveKey
  split
  · exact h
  · exact (h.withRegs _).withMode _

theorem running_eq_false : c.running = false ↔ ∃ x : Register, c.mode = .awaitingKey x := by
  rw [running, decide_eq_false_iff_not]
  cases c.mode with
  | running => simp
  | awaitingKey x => simp

theorem byte_bounds (value : UInt8) : 0 ≤ (value.toNat : Int) ∧ (value.toNat : Int) ≤ 255 := by
  have hvalue := value.toNat_lt
  omega

end Cpu

namespace Machine

open ChipEight.Machine.Action

variable {m : Machine}

/-! ### Parts that do not matter -/

theorem WellFormed.onCpu (h : m.WellFormed size depth) {change : Cpu → Cpu}
    (hcpu : (change m.cpu).InRange size depth) : (m.onCpu change).WellFormed size depth :=
  ⟨h.memory, h.calls, hcpu, h.screen⟩

theorem WellFormed.onSpeaker (h : m.WellFormed size depth)
    (action : Speaker → Speaker × List DeviceCall) :
    (m.onSpeaker action).WellFormed size depth := by
  refine ⟨?_, ?_, ?_, ?_⟩
  · rw [onSpeaker_memory, h.memory]
  · rw [onSpeaker_stackDepth, h.calls]
  · rw [onSpeaker_cpu]
    exact h.cpu
  · rw [onSpeaker_screen]
    exact h.screen

theorem WellFormed.latch (h : m.WellFormed size depth) : m.latch.WellFormed size depth :=
  ⟨h.memory, h.calls, h.cpu, h.screen⟩

theorem WellFormed.decrementTimers (h : m.WellFormed size depth) :
    m.decrementTimers.WellFormed size depth :=
  h.onCpu h.cpu.decrementTimers

theorem WellFormed.resolveKey (h : m.WellFormed size depth) (key : Int) :
    (m.resolveKey key).WellFormed size depth :=
  h.onCpu (h.cpu.resolveKey key)

/-! ### One instruction -/

/-- A change of the processor need only keep its numbers in their ranges. -/
theorem modifyCpu_wellFormed {change : Cpu → Cpu}
    (h : ∀ m : Machine, m.Fetched size depth → (change m.cpu).InRange size depth) :
    Ensures (Fetched size depth) (modifyCpu change) fun _ => WellFormed size depth :=
  ensures_modifyCpu fun m hm => hm.toWellFormed.onCpu (h m hm)

/-- An instruction keeps a machine well-formed, and never crashes it. -/
theorem perform_wellFormed (instruction : Instruction) :
    Ensures (Fetched size depth) (perform instruction) fun _ => WellFormed size depth := by
  cases instruction with rw [perform]
  | clear =>
      exact ensures_modify fun m hm => ⟨hm.memory, hm.calls, hm.cpu, hm.screen.cleared⟩
  | ret =>
      refine ensures_getCpu.bind fun c => ?_
      split
      · exact ensures_raise
      · rename_i address rest hstack
        refine ensures_modifyCpu ?_
        rintro m ⟨hm, rfl⟩
        exact hm.toWellFormed.onCpu (hm.cpu.pop hstack)
  | jump nnn => exact modifyCpu_wellFormed fun m hm => hm.cpu.goto (by omega)
  | call nnn =>
      refine ensures_get.bind fun now => ?_
      split
      · exact ensures_raise
      · rename_i hroom
        refine ensures_modifyCpu ?_
        rintro m ⟨hm, rfl⟩
        rw [hm.calls] at hroom
        exact hm.toWellFormed.onCpu (hm.cpu.push ⟨hm.low, hm.high⟩ (by omega) nnn)
  | skip condition =>
      refine ensures_get.bind fun now => ?_
      split
      · refine ensures_modifyCpu ?_
        rintro m ⟨hm, rfl⟩
        have hlow := hm.low
        have hhigh := hm.high
        refine hm.toWellFormed.onCpu (hm.cpu.goto ?_)
        simp only [Cpu.instructionSize]
        omega
      · exact ensures_pure fun m hm => hm.1.toWellFormed
  | load x kk => exact modifyCpu_wellFormed fun m hm => hm.cpu.withRegs _
  | add x kk => exact modifyCpu_wellFormed fun m hm => hm.cpu.withRegs _
  | compute computation x y =>
      exact modifyCpu_wellFormed fun m hm => hm.cpu.compute computation x y
  | loadIndex nnn => exact modifyCpu_wellFormed fun m hm => hm.cpu.point (by omega)
  | jumpAhead nnn =>
      refine modifyCpu_wellFormed fun m hm => hm.cpu.goto ?_
      have hbyte := Cpu.byte_bounds (m.cpu.reg .base)
      omega
  | random x kk =>
      refine (ensures_drawRandom (Q := fun _ => WellFormed size depth) ?_).bind fun number => ?_
      · intro m hm
        exact ⟨hm.memory, hm.calls, hm.cpu, hm.screen⟩
      · exact ensures_modifyCpu fun m hm => hm.onCpu (hm.cpu.withRegs _)
  | draw x y n =>
      refine ensures_getCpu.bind fun c => ensures_askMemory.bind fun rows => ?_
      refine (ensures_drawSprite (Q := fun _ => WellFormed size depth) ?_).bind fun collision => ?_
      · rintro m ⟨⟨hm, rfl⟩, -⟩
        obtain ⟨drawn, hdrawn, hscreen⟩ :=
          Screen.keptByDrawing_coherent.drawSprite? (m.cpu.reg x).toNat (m.cpu.reg y).toNat
            hm.screen
        exact ⟨drawn, hdrawn, hm.memory, hm.calls, hm.cpu, hscreen⟩
      · exact ensures_modifyCpu fun m hm => hm.onCpu (hm.cpu.withRegs _)
  | readDelay x => exact modifyCpu_wellFormed fun m hm => hm.cpu.withRegs _
  | awaitKey x => exact modifyCpu_wellFormed fun m hm => hm.cpu.withMode _
  | setDelay x =>
      exact modifyCpu_wellFormed fun m hm =>
        ⟨hm.cpu.index, hm.cpu.pc, Cpu.byte_bounds _, hm.cpu.sound, hm.cpu.nesting, hm.cpu.stack⟩
  | setSound x =>
      refine (ensures_modifyCpu (Q := WellFormed size depth) ?_).bind fun _ =>
        ensures_getCpu.bind fun c => ?_
      · intro m hm
        exact hm.toWellFormed.onCpu
          ⟨hm.cpu.index, hm.cpu.pc, hm.cpu.delay, Cpu.byte_bounds _, hm.cpu.nesting, hm.cpu.stack⟩
      · split
        · exact ensures_playTone fun m action hm => hm.1.onSpeaker action
        · exact ensures_pure fun m hm => hm.1
  | addIndex x =>
      refine modifyCpu_wellFormed fun m hm => hm.cpu.point ?_
      have hindex := hm.cpu.index
      have hbyte := Cpu.byte_bounds (m.cpu.reg x)
      omega
  | loadDigit x =>
      refine modifyCpu_wellFormed fun m hm => hm.cpu.point ?_
      simp only [Font.addressOf, Font.address, Font.rows]
      omega
  | storeDecimal x =>
      refine ensures_getCpu.bind fun c => ensures_store fun m memory hm hstore => ?_
      exact ⟨by rw [Memory.size_store hstore, hm.1.memory], hm.1.calls, hm.1.cpu, hm.1.screen⟩
  | store x =>
      refine ensures_getCpu.bind fun c => ensures_store fun m memory hm hstore => ?_
      exact ⟨by rw [Memory.size_store hstore, hm.1.memory], hm.1.calls, hm.1.cpu, hm.1.screen⟩
  | restore x =>
      refine ensures_getCpu.bind fun c => ensures_askMemory.bind fun values => ?_
      exact ensures_modifyCpu fun m hm => hm.1.1.toWellFormed.onCpu (hm.1.1.cpu.withRegs _)

theorem execute_wellFormed (operand : Int) :
    Ensures (Fetched size depth) (execute operand) fun _ => WellFormed size depth := by
  refine (ensures_modifyCpu (Q := Fetched size depth) ?_).bind fun _ => ?_
  · intro m hm
    exact ⟨hm.toWellFormed.onCpu (hm.cpu.withOperand operand), hm.low, hm.high⟩
  · split
    · exact ensures_raise
    · exact perform_wellFormed _

/-! ### One step -/

theorem WellFormed.advance (h : m.WellFormed size depth) {operand : Nat}
    (hfetch : m.memory.readWord m.cpu.pc = .ok operand) :
    (m.onCpu Cpu.advance).Fetched size depth := by
  obtain ⟨⟨hlow, hhigh⟩, -⟩ := Memory.readWord_ok hfetch
  rw [h.memory] at hhigh
  refine ⟨h.onCpu (h.cpu.goto ?_), ?_, ?_⟩
  · simp only [Cpu.instructionSize]
    omega
  · simp only [onCpu_cpu, Cpu.advance, Cpu.instructionSize]
    omega
  · simp only [onCpu_cpu, Cpu.advance, Cpu.instructionSize]
    omega

/-- A step keeps a machine well-formed, and never crashes it. -/
theorem step_wellFormed : Ensures (WellFormed size depth) step fun _ => WellFormed size depth where
  ok := by
    intro m hm answer after hrun
    rw [run_step] at hrun
    split at hrun
    · cases hrun
    · rename_i operand hfetch
      split at hrun <;> cases hrun
      rename_i hexecute
      exact (execute_wellFormed _).ok _ (hm.advance hfetch) _ _ hexecute
  crash := by
    intro m hm crash after hrun
    rw [run_step] at hrun
    split at hrun
    · cases hrun
    · rename_i operand hfetch
      split at hrun <;> cases hrun
      rename_i hexecute
      exact (execute_wellFormed _).crash _ (hm.advance hfetch) _ _ hexecute

/-- A fault leaves a well-formed machine. -/
theorem WellFormed.step_fault (h : m.WellFormed size depth) {after : Machine} {fault : Fault}
    (hrun : step.run m = .error (.fault fault) after) : after.WellFormed size depth := by
  rcases Machine.step_fault hrun with ⟨-, rfl⟩ | ⟨operand, -, -, -, -, rfl⟩
  · exact h
  · exact h.onCpu (h.cpu.withOperand operand)

end Machine

end ChipEight
