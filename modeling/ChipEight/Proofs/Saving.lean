/-
Registers saved to memory and taken back.

Two instructions move the first registers to memory and back again, and they are told apart by which
side is written.  What connects them are two laws of the memory itself.  A range that was just
written reads as what was written to it (`readBytes_of_store`), and a range that is written with
what was read from it is as it was (`store_of_readBytes`).  Whatever happens to the registers between
saving and taking back is therefore of no account, as long as the memory and the index register are
left alone.

Neither instruction does a part of its work.  If the range is not all in memory, both end in the same
fault, before a register or a byte has changed.
-/
import ChipEight.Proofs.Completion
import ChipEight.Proofs.Writes

namespace ChipEight

/-! ### Writing and reading the same range -/

namespace Memory

variable {m after : Memory} {address length : Int} {values : List UInt8}

theorem ext_byteAt {m' : Memory} (hsize : m'.size = m.size)
    (hbytes : ∀ place, m'.byteAt place = m.byteAt place) : m' = m := by
  cases m with
  | mk bytes =>
      cases m' with
      | mk bytes' =>
          refine congrArg Memory.mk (Array.ext hsize fun place hplace' hplace => ?_)
          have hbyte := hbytes place
          rwa [byteAt, byteAt, Array.getD_eq_getD_getElem?, Array.getD_eq_getD_getElem?,
            Array.getElem?_eq_getElem hplace', Array.getElem?_eq_getElem hplace] at hbyte

theorem inside_of_size {m' : Memory} (h : m'.size = m.size) :
    m'.Inside address length ↔ m.Inside address length := by
  rw [Inside, Inside, h]

/-- What was just written is read back. -/
theorem readBytes_of_store (hvalues : values ≠ []) (h : m.store address values = .ok after) :
    after.readBytes address values.length = .ok values := by
  have hlength := List.length_pos_iff.2 hvalues
  have hinside := (store_ok_iff.1 ⟨after, h⟩).resolve_left hvalues
  refine (readBytes_ok_iff (by omega)).2 ⟨(inside_of_size (size_store h)).2 hinside, ?_⟩
  refine List.ext_getElem (by simp) fun i hi hi' => ?_
  rw [List.getElem_map, List.getElem_range, byteAt_store h, if_pos (by omega),
    Nat.add_sub_cancel_left, List.getD_eq_getElem _ _ hi]

/-- What was read from a range can be written there, and nothing has changed then. -/
theorem store_of_readBytes (hlength : 0 < length) (h : m.readBytes address length = .ok values) :
    m.store address values = .ok m := by
  obtain ⟨hinside, hvalues⟩ := (readBytes_ok_iff hlength).1 h
  have hcount : values.length = length.toNat := by simp [hvalues]
  have hcount' : (values.length : Int) = length := by omega
  rw [← hcount'] at hinside
  obtain ⟨after, hafter⟩ := store_ok_iff.2 (Or.inr hinside)
  have hsame : after = m := by
    refine ext_byteAt (size_store hafter) fun place => ?_
    rw [byteAt_store hafter]
    split
    · have hoffset : address.toNat + (place - address.toNat) = place := by omega
      rw [hvalues, List.getD_eq_getElem _ _ (by simp; omega), List.getElem_map,
        List.getElem_range, hoffset]
    · rfl
  rw [hafter, hsame]

end Memory

/-! ### The first registers -/

namespace Cpu

variable (c : Cpu) {x z : Register} {values : List UInt8}

theorem getD_firstRegs (h : z ≤ x) : (c.firstRegs x).getD z 0 = c.reg z := by
  have hz : (z : Nat) < x + 1 := Nat.lt_succ_of_le h
  rw [firstRegs, List.getD_eq_getElem?_getD, List.getElem?_take_of_lt hz, Vector.getElem?_toList,
    Vector.getElem?_eq_getElem z.isLt]
  rfl

theorem index_setFirstRegs (x : Register) (values : List UInt8) :
    (c.setFirstRegs x values).index = c.index := by
  rw [setFirstRegs_eq]

theorem firstRegs_setFirstRegs (h : values.length = (x : Nat) + 1) :
    (c.setFirstRegs x values).firstRegs x = values := by
  have hlength := Machine.length_firstRegs (c.setFirstRegs x values) x
  refine List.ext_getElem (hlength.trans h.symm) fun i hi hi' => ?_
  rw [h] at hi'
  have hreg : (⟨i, by omega⟩ : Register) ≤ x := Nat.le_of_lt_succ hi'
  have hvalue := getD_firstRegs (c.setFirstRegs x values) hreg
  rwa [reg_setFirstRegs, if_pos hreg, List.getD_eq_getElem _ _ hi,
    List.getD_eq_getElem _ _ (by omega)] at hvalue

end Cpu

namespace Machine

open Machine.Action Instruction

variable {m : Machine} {x : Register}

/-! ### How the instructions run -/

theorem decode_ofByte_misc (kk : UInt8) : decode (ofByte 0xF x kk) = ofMiscCode? x kk.toNat := by
  rw [decode_word (ofByte_lt x kk (by decide)), ofWord?_misc (ofByte_group x kk), xOf_ofByte,
    ofByte_mod]

/-- The word that writes the registers up to one to memory. -/
def saveWord (x : Register) : Nat := ofByte 0xF x 0x55

/-- The word that reads them from there. -/
def restoreWord (x : Register) : Nat := ofByte 0xF x 0x65

/-- The word that writes the decimal digits of a register to memory. -/
def decimalWord (x : Register) : Nat := ofByte 0xF x 0x33

theorem run_execute_storing {operand : Int} {instruction : Instruction} {values : Cpu → List UInt8}
    (hdecode : decode operand = some instruction)
    (hperform : perform instruction = getCpu >>= fun c => store c.index (values c)) (m : Machine) :
    (execute operand).run m =
      match m.memory.store m.cpu.index (values { m.cpu with operand := operand }) with
      | .error fault => .error (.fault fault) (m.onCpu ({ · with operand := operand }))
      | .ok memory =>
        .ok () ({ m with memory := memory }.onCpu ({ · with operand := operand })) := by
  simp only [run_execute, hdecode, hperform, EStateM.run_bind, run_getCpu, run_store]
  rfl

theorem run_execute_save (m : Machine) (x : Register) :
    (execute (saveWord x)).run m =
      match m.memory.store m.cpu.index (m.cpu.firstRegs x) with
      | .error fault =>
        .error (.fault fault) (m.onCpu ({ · with operand := saveWord x }))
      | .ok memory =>
        .ok () ({ m with memory := memory }.onCpu ({ · with operand := saveWord x })) :=
  run_execute_storing (decode_ofByte_misc 0x55) rfl m

theorem run_execute_decimal (m : Machine) (x : Register) :
    (execute (decimalWord x)).run m =
      match m.memory.store m.cpu.index (decimalDigits (m.cpu.reg x)) with
      | .error fault =>
        .error (.fault fault) (m.onCpu ({ · with operand := decimalWord x }))
      | .ok memory =>
        .ok () ({ m with memory := memory }.onCpu ({ · with operand := decimalWord x })) :=
  run_execute_storing (decode_ofByte_misc 0x33) rfl m

theorem run_execute_restore (m : Machine) (x : Register) :
    (execute (restoreWord x)).run m =
      match m.memory.readBytes m.cpu.index ((x : Nat) + 1) with
      | .error fault =>
        .error (.fault fault) (m.onCpu ({ · with operand := restoreWord x }))
      | .ok values =>
        .ok () ((m.onCpu ({ · with operand := restoreWord x })).onCpu
          (·.setFirstRegs x values)) := by
  have hdecode : decode (restoreWord x) = some (.restore x) := decode_ofByte_misc 0x65
  simp only [run_execute, hdecode, perform, EStateM.run_bind, run_getCpu, run_askMemory,
    onCpu_memory, onCpu_cpu]
  cases m.memory.readBytes m.cpu.index ((x : Nat) + 1) <;> rfl

/-! ### There and back -/

theorem firstRegs_ne_nil (c : Cpu) (x : Register) : c.firstRegs x ≠ [] :=
  List.ne_nil_of_length_eq_add_one (length_firstRegs c x)

theorem store_firstRegs_ok (h : m.memory.Inside m.cpu.index ((x : Nat) + 1)) :
    ∃ memory, m.memory.store m.cpu.index (m.cpu.firstRegs x) = .ok memory := by
  refine Memory.store_ok_iff.2 (Or.inr ?_)
  rw [length_firstRegs]
  exact h

/-- Where registers were saved, they are taken back by any machine. -/
theorem restore_of_store {between : Machine} {memory : Memory}
    (hstore : m.memory.store m.cpu.index (m.cpu.firstRegs x) = .ok memory)
    (hmemory : between.memory = memory) (hindex : between.cpu.index = m.cpu.index) :
    (execute (restoreWord x)).run between =
      .ok () ((between.onCpu ({ · with operand := restoreWord x })).onCpu
        (·.setFirstRegs x (m.cpu.firstRegs x))) := by
  have hread := Memory.readBytes_of_store (firstRegs_ne_nil m.cpu x) hstore
  rw [length_firstRegs] at hread
  have hread' : between.memory.readBytes between.cpu.index ((x : Nat) + 1) =
      .ok (m.cpu.firstRegs x) := by
    rw [hmemory, hindex]
    exact hread
  rw [run_execute_restore, hread']

/-- Registers that were just taken from memory are saved there without a change. -/
theorem save_of_restore (h : m.memory.Inside m.cpu.index ((x : Nat) + 1)) :
    ∃ taken : Machine, (execute (restoreWord x)).run m = .ok () taken ∧
      (execute (saveWord x)).run taken =
        .ok () (taken.onCpu ({ · with operand := saveWord x })) ∧
      taken.memory = m.memory := by
  obtain ⟨values, hread⟩ : ∃ values, m.memory.readBytes m.cpu.index ((x : Nat) + 1) = .ok values :=
    ⟨_, (Memory.readBytes_ok_iff (by omega)).2 ⟨h, rfl⟩⟩
  have hlength : values.length = (x : Nat) + 1 := by
    obtain ⟨-, rfl⟩ := (Memory.readBytes_ok_iff (by omega)).1 hread
    simp
  have hstore := Memory.store_of_readBytes (by omega) hread
  have htaken : (execute (restoreWord x)).run m =
      .ok () ((m.onCpu ({ · with operand := restoreWord x })).onCpu (·.setFirstRegs x values)) := by
    rw [run_execute_restore, hread]
  refine ⟨_, htaken, ?_, onCpu_memory _ _⟩
  simp only [run_execute_save, onCpu_cpu, onCpu_memory, Cpu.firstRegs_setFirstRegs _ hlength,
    Cpu.index_setFirstRegs, hstore]
  rfl

/-! ### Decimal digits -/

theorem decimalDigits_spec (value : UInt8) :
    value / 100 ≤ 9 ∧ value / 10 % 10 ≤ 9 ∧ value % 10 ≤ 9 ∧
      100 * (value / 100).toNat + 10 * (value / 10 % 10).toNat + (value % 10).toNat =
        value.toNat := by
  have hvalue := value.toNat_lt
  simp only [UInt8.le_iff_toNat_le, UInt8.toNat_div, UInt8.toNat_mod, UInt8.reduceToNat]
  omega

/-- The digits stand one after the other, and no other byte has changed. -/
theorem byteAt_decimal {memory : Memory} {value : UInt8} (hlow : 0 ≤ m.cpu.index)
    (hstore : m.memory.store m.cpu.index (decimalDigits value) = .ok memory) (place : Nat) :
    memory.byteAt place =
      if (place : Int) = m.cpu.index then value / 100
      else if (place : Int) = m.cpu.index + 1 then value / 10 % 10
      else if (place : Int) = m.cpu.index + 2 then value % 10
      else m.memory.byteAt place := by
  have hlength : (decimalDigits value).length = 3 := rfl
  rw [Memory.byteAt_store hstore, hlength]
  by_cases hinside : m.cpu.index.toNat ≤ place ∧ place < m.cpu.index.toNat + 3
  · obtain ⟨offset, rfl⟩ : ∃ offset, place = m.cpu.index.toNat + offset :=
      ⟨place - m.cpu.index.toNat, by omega⟩
    rw [if_pos hinside, Nat.add_sub_cancel_left]
    have hoffset : offset = 0 ∨ offset = 1 ∨ offset = 2 := by omega
    rcases hoffset with rfl | rfl | rfl
    · rw [if_pos (by omega)]
      rfl
    · rw [if_neg (by omega), if_pos (by omega)]
      rfl
    · rw [if_neg (by omega), if_neg (by omega), if_pos (by omega)]
      rfl
  · rw [if_neg hinside, if_neg (by omega), if_neg (by omega), if_neg (by omega)]

/-- **Registers are saved and taken back.**  If there is room at the index register, the registers up
to `Vx` go to memory, and nothing else changes; and whatever has become of the registers since, as
long as the memory and the index register are the same, those up to `Vx` come back as they were
saved, and nothing else changes.  The other way around, registers that were taken from memory and
are saved there again leave it as it was.  If there is no room, either instruction ends in the same
fault, and nothing has changed but the operand.  The decimal digits of a register are written in
their order if there is room for three bytes, and they make up its value. -/
theorem registers_saved_and_restored (m : Machine) (x : Register) :
    (m.memory.Inside m.cpu.index ((x : Nat) + 1) →
      (∃ saved : Machine, (execute (saveWord x)).run m = .ok () saved ∧
        saved = { m with
          memory := saved.memory
          cpu := { m.cpu with operand := saveWord x } } ∧
        ∀ between : Machine, between.memory = saved.memory → between.cpu.index = m.cpu.index →
          ∃ restored : Machine, (execute (restoreWord x)).run between = .ok () restored ∧
            (∀ z, restored.cpu.reg z = if z ≤ x then m.cpu.reg z else between.cpu.reg z) ∧
            restored = { between with
              cpu := { between.cpu with v := restored.cpu.v, operand := restoreWord x } }) ∧
      ∃ taken back : Machine, (execute (restoreWord x)).run m = .ok () taken ∧
        (execute (saveWord x)).run taken = .ok () back ∧ back.memory = m.memory) ∧
    (¬ m.memory.Inside m.cpu.index ((x : Nat) + 1) →
      ∀ operand ∈ [saveWord x, restoreWord x],
        (execute operand).run m =
          .error (.fault (.outOfBounds (m.memory.blamed m.cpu.index ((x : Nat) + 1)) m.memory.size))
            (m.onCpu ({ · with operand := operand }))) ∧
    (m.memory.Inside m.cpu.index 3 →
      ∃ (after : Machine) (hundreds tens ones : UInt8),
        (execute (decimalWord x)).run m = .ok () after ∧
        hundreds ≤ 9 ∧ tens ≤ 9 ∧ ones ≤ 9 ∧
        100 * hundreds.toNat + 10 * tens.toNat + ones.toNat = (m.cpu.reg x).toNat ∧
        (∀ place : Nat, after.memory.byteAt place =
          if (place : Int) = m.cpu.index then hundreds
          else if (place : Int) = m.cpu.index + 1 then tens
          else if (place : Int) = m.cpu.index + 2 then ones
          else m.memory.byteAt place) ∧
        after.memory.size = m.memory.size ∧
        after = { m with
          memory := after.memory
          cpu := { m.cpu with operand := decimalWord x } }) := by
  refine ⟨?_, ?_, ?_⟩
  · intro hinside
    refine ⟨?_, ?_⟩
    · obtain ⟨memory, hstore⟩ := store_firstRegs_ok hinside
      refine ⟨_, by rw [run_execute_save, hstore], rfl, ?_⟩
      intro between hmemory hindex
      refine ⟨_, restore_of_store hstore hmemory hindex, ?_, rfl⟩
      intro z
      rw [onCpu_cpu, Cpu.reg_setFirstRegs]
      split
      · rename_i hz
        exact Cpu.getD_firstRegs m.cpu hz
      · rfl
    · obtain ⟨taken, htaken, hback, hmemory⟩ := save_of_restore hinside
      exact ⟨taken, _, htaken, hback, hmemory⟩
  · intro houtside operand hoperand
    rcases List.mem_pair.1 hoperand with rfl | rfl
    · have hfault := Memory.store_error_iff.2
        ⟨firstRegs_ne_nil m.cpu x, by rwa [length_firstRegs], rfl⟩
      rw [run_execute_save, hfault, length_firstRegs]
      rfl
    · have hfault := Memory.readBytes_error_iff.2 ⟨by omega, houtside, rfl⟩
      rw [run_execute_restore, hfault]
  · intro hinside
    obtain ⟨memory, hstore⟩ :
        ∃ memory, m.memory.store m.cpu.index (decimalDigits (m.cpu.reg x)) = .ok memory :=
      Memory.store_ok_iff.2 (Or.inr hinside)
    obtain ⟨hhundreds, htens, hones, hsum⟩ := decimalDigits_spec (m.cpu.reg x)
    exact ⟨_, _, _, _, by rw [run_execute_decimal, hstore], hhundreds, htens, hones, hsum,
      byteAt_decimal hinside.1 hstore, Memory.size_store hstore, rfl⟩

/-- A machine with room for four bytes at its index register, and with something to save. -/
def saving : Machine :=
  { Machine.poweredOn (.blank 6) 16 none (.cycle []) with
    cpu := { Cpu.initial.setReg .base 205 with index := 2 } }

/-- One register is saved and taken back, all of them are too many, and three digits fit. -/
theorem saving_outcomes :
    (∃ saved : Machine, (execute (saveWord .base)).run saving = .ok () saved ∧
      ∀ v, ∃ restored : Machine,
        (execute (restoreWord .base)).run (saved.onCpu ({ · with v := v })) = .ok () restored ∧
          restored.cpu.reg .base = 205) ∧
    (execute (saveWord .flag)).run saving =
      .error (.fault (.outOfBounds 17 6)) (saving.onCpu ({ · with operand := saveWord .flag })) ∧
    ∃ after : Machine, (execute (decimalWord .base)).run saving = .ok () after ∧
      (after.memory.byteAt 2).toNat = 2 ∧ after.memory.byteAt 5 = 0 := by
  obtain ⟨hroom, -, hdecimal⟩ := registers_saved_and_restored saving .base
  obtain ⟨-, hnoRoom, -⟩ := registers_saved_and_restored saving .flag
  obtain ⟨⟨saved, hsaved, hframe, hrestore⟩, -⟩ := hroom (by decide)
  obtain ⟨after, hundreds, tens, ones, hafter, -, htens, hones, hsum, hbytes, -⟩ :=
    hdecimal (by decide)
  have hfault := hnoRoom (by decide) (saveWord .flag) (List.mem_cons_self ..)
  refine ⟨⟨saved, hsaved, ?_⟩, hfault, after, hafter, ?_, ?_⟩
  · intro v
    have hindex : saved.cpu.index = saving.cpu.index := by rw [hframe]
    obtain ⟨restored, hrestored, hregs, -⟩ := hrestore (saved.onCpu ({ · with v := v })) rfl hindex
    exact ⟨restored, hrestored, hregs .base⟩
  · have hdigits : 100 * hundreds.toNat + 10 * tens.toNat + ones.toNat = 205 := hsum
    have htens' : tens.toNat ≤ 9 := htens
    have hones' : ones.toNat ≤ 9 := hones
    rw [hbytes]
    show hundreds.toNat = 2
    omega
  · rw [hbytes]
    rfl

end Machine

end ChipEight
