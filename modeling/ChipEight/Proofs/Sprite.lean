/-
What the instruction that draws does, in one formula.

An instruction `Dxyn` takes the coordinates from two registers and `n` rows from memory.  Which
places its sprite covers can be told from these alone: the row of a place is how far it lies below
the first row, and its column how far it lies to the right of the first column, going around the
picture if need be.  No place is covered twice, since a row is not wider than the picture, and so
every place that is covered is turned around.

Places below the picture are not covered by anything.  The flag register is read, if it holds a
coordinate, before the flag is raised.
-/
import ChipEight.Proofs.Completion
import ChipEight.Proofs.Drawing

namespace ChipEight

/-- The word of the instruction that draws `n` rows at the place in two registers. -/
def Instruction.drawWord (x y : Register) (n : Fin 16) : Nat :=
  0xD000 + x * 0x100 + y * 0x10 + n

namespace Machine

open ChipEight.Machine.Action Instruction

variable {m : Machine} {x y : Register} {n : Fin 16} {place : Point}

/-- Whether a sprite covers a place of the standard picture: one of its `n` rows lies there, and
in that row the bit of the column is set. -/
def Covers (m : Machine) (x y : Register) (n : Fin 16) (place : Point) : Prop :=
  ∃ r : Nat, r < n ∧ (m.cpu.reg y).toNat + (r : Int) = place.y ∧ place.y < 32 ∧
    (place.x - (m.cpu.reg x).toNat) % 64 < 8 ∧
    (m.memory.byteAt (m.cpu.index.toNat + r)).toNat.testBit
      (7 - (place.x - (m.cpu.reg x).toNat) % 64).toNat = true

instance (m : Machine) (x y : Register) (n : Fin 16) (place : Point) :
    Decidable (m.Covers x y n place) :=
  inferInstanceAs (Decidable (∃ r : Nat, r < n ∧ _))

/-- Whether a sprite covers a pixel that is on. -/
def Collides (m : Machine) (x y : Register) (n : Fin 16) : Prop :=
  ∃ place, m.screen.Contains place ∧ m.Covers x y n place ∧
    m.screen.pixel? place.x place.y = some true

/-- The bytes of a sprite. -/
def spriteRows (m : Machine) (n : Fin 16) : List UInt8 :=
  (List.range n).map fun r => m.memory.byteAt (m.cpu.index.toNat + r)

/-- The pixels that a sprite turns around. -/
def drawFlips (m : Machine) (x y : Register) (n : Fin 16) : List Int :=
  m.screen.spriteFlips (m.cpu.reg x).toNat (m.cpu.reg y).toNat (m.spriteRows n)

/-- The machine that drawing a sprite leaves. -/
def drawn (m : Machine) (x y : Register) (n : Fin 16) : Machine :=
  { m with screen := (m.screen.flipAll (m.drawFlips x y n)).1 }.onCpu
    (·.setFlag (m.screen.flipAll (m.drawFlips x y n)).2)

theorem reg_flag_drawn :
    (m.drawn x y n).cpu.reg .flag =
      if (m.screen.flipAll (m.drawFlips x y n)).2 then 1 else 0 := by
  rw [drawn, onCpu_cpu, Cpu.setFlag, Cpu.reg_setReg, if_pos rfl]

/-- Besides the picture and the flag register a sprite changes nothing. -/
theorem drawn_eq (m : Machine) (x y : Register) (n : Fin 16) :
    m.drawn x y n =
      { m with
        cpu := m.cpu.setReg .flag ((m.drawn x y n).cpu.reg .flag)
        screen :=
          { m.screen with
            pixels := (m.drawn x y n).screen.pixels
            pending := (m.drawn x y n).screen.pending } } := by
  rw [reg_flag_drawn]
  let raise : Cpu → Cpu := (·.setFlag (m.screen.flipAll (m.drawFlips x y n)).2)
  exact congrArg (fun screen : Screen => ({ m with screen := screen } : Machine).onCpu raise)
    (m.screen.flipAll_eq (m.drawFlips x y n))

theorem drawWord_lt (x y : Register) (n : Fin 16) : drawWord x y n < 0x10000 := by
  unfold drawWord
  omega

theorem decode_drawWord (x y : Register) (n : Fin 16) :
    decode (drawWord x y n) = some (draw x y n) := by
  have hword : drawWord x y n = ofRegisters 0xD x y n := rfl
  rw [decode_word (drawWord_lt x y n), hword, ofWord?_draw (ofRegisters_group x y n), xOf_ofRegisters,
    yOf_ofRegisters, lengthOf_ofRegisters]

theorem getElem?_spriteRows {r : Nat} {row : UInt8} :
    (m.spriteRows n)[r]? = some row ↔ r < n ∧ m.memory.byteAt (m.cpu.index.toNat + r) = row := by
  simp [spriteRows, List.getElem?_eq_some_iff]

theorem readBytes_spriteRows (h : (n : Nat) = 0 ∨ m.memory.Inside m.cpu.index (n : Nat)) :
    m.memory.readBytes m.cpu.index (n : Nat) = .ok (m.spriteRows n) := by
  by_cases hnone : ((n : Nat) : Int) ≤ 0
  · have hzero : (n : Nat) = 0 := by omega
    rw [Memory.readBytes, if_pos hnone, spriteRows, hzero]
    rfl
  · have hinside : m.memory.Inside m.cpu.index (n : Nat) := h.resolve_left (by omega)
    rw [Memory.readBytes, if_neg hnone, Memory.checked_eq (by omega), if_pos hinside]
    rfl

/-- The instruction comes to its end, if its rows are there to be drawn. -/
theorem run_perform_draw (hscreen : m.screen.Complete)
    (hrows : (n : Nat) = 0 ∨ m.memory.Inside m.cpu.index (n : Nat)) :
    (perform (draw x y n)).run m = .ok () (m.drawn x y n) := by
  have hread := readBytes_spriteRows hrows
  have hfails : ∀ fault, ¬ Fails m (draw x y n) fault := by
    rintro fault (_ | _ | outside)
    rw [hread] at outside
    cases outside
  obtain ⟨after, hrun⟩ := perform_ends hscreen hfails
  rw [hrun]
  cases perform_ok hrun with
  | draw read drawn =>
      cases hread.symm.trans read
      rw [hscreen.drawSprite?_eq, Option.some_inj] at drawn
      rw [Machine.drawn, drawFlips, drawn]

theorem run_execute_draw (hscreen : m.screen.Complete)
    (hrows : (n : Nat) = 0 ∨ m.memory.Inside m.cpu.index (n : Nat)) :
    (execute (drawWord x y n)).run m =
      .ok () ((m.onCpu ({ · with operand := drawWord x y n })).drawn x y n) := by
  simp only [run_execute, decode_drawWord]
  exact run_perform_draw hscreen hrows

theorem run_step_draw (hscreen : m.screen.Complete)
    (hrows : (n : Nat) = 0 ∨ m.memory.Inside m.cpu.index (n : Nat))
    (hfetch : m.memory.readWord m.cpu.pc = .ok (drawWord x y n)) :
    step.run m = .ok (drawWord x y n) ((m.beginning (drawWord x y n)).drawn x y n) := by
  have hexecute := run_execute_draw (m := m.onCpu Cpu.advance) (x := x) (y := y) hscreen hrows
  exact run_step_of_execute hfetch hexecute

/-! ### The places of a sprite -/

section

variable (hscreen : m.screen.Complete)

include hscreen

theorem isIndex_drawFlips : ∀ index ∈ m.drawFlips x y n, m.screen.IsIndex index :=
  hscreen.isIndex_spriteFlips

variable (hwidth : m.screen.width = 64)

include hwidth

theorem nodup_drawFlips : (m.drawFlips x y n).Nodup :=
  hscreen.nodup_spriteFlips (by omega) _ _ _

variable (hheight : m.screen.height = 32)

include hheight

/-- A sprite turns around the places that it covers. -/
theorem mem_drawFlips_iff (hplace : m.screen.Contains place) :
    m.screen.indexOf place ∈ m.drawFlips x y n ↔ m.Covers x y n place := by
  obtain ⟨hleft, hright, -, hbottom⟩ := id hplace
  rw [hwidth] at hright
  rw [hheight] at hbottom
  -- A column is as far to the right of the first one as the place is, going around the picture.
  have hcolumn : ∀ i : Nat, i < 8 → (((m.cpu.reg x).toNat + (i : Int)) % 64 = place.x ↔
      (place.x - (m.cpu.reg x).toNat) % 64 = i) := by
    intro i hi
    omega
  rw [drawFlips, hscreen.mem_spriteFlips hplace, hwidth, Covers]
  constructor
  · rintro ⟨r, row, hrow, hbelow, i, hi, hbit, hwraps⟩
    obtain ⟨hr, rfl⟩ := getElem?_spriteRows.1 hrow
    have hdistance := (hcolumn i hi).1 hwraps
    refine ⟨r, hr, hbelow, hbottom, by omega, ?_⟩
    rw [hdistance, ← hbit]
    congr 1
    omega
  · rintro ⟨r, hr, hbelow, -, hnear, hbit⟩
    obtain ⟨i, hi⟩ : ∃ i : Nat, (place.x - (m.cpu.reg x).toNat) % 64 = i :=
      ⟨_, (Int.toNat_of_nonneg (by omega)).symm⟩
    rw [hi] at hnear hbit
    refine ⟨r, _, getElem?_spriteRows.2 ⟨hr, rfl⟩, hbelow, i, by omega, ?_, ?_⟩
    · rw [← hbit]
      congr 1
      omega
    · exact (hcolumn i (by omega)).2 hi

theorem covers_placeOf_iff {index : Int} :
    m.Covers x y n (m.screen.placeOf index) ↔ index ∈ m.drawFlips x y n := by
  constructor
  · intro hcovers
    have hplace : m.screen.Contains (m.screen.placeOf index) := by
      obtain ⟨r, -, hrow, hbottom, -⟩ := hcovers
      refine ⟨Int.fmod_nonneg_of_pos _ hscreen.width_pos,
        Int.fmod_lt_of_pos _ hscreen.width_pos, by omega, by rw [hheight]; exact hbottom⟩
    rwa [← mem_drawFlips_iff hscreen hwidth hheight hplace, Screen.indexOf_placeOf] at hcovers
  · intro hmember
    have hplace := hscreen.contains_placeOf (isIndex_drawFlips hscreen index hmember)
    rwa [← mem_drawFlips_iff hscreen hwidth hheight hplace, Screen.indexOf_placeOf]

/-- A pixel was on when it was its turn if the sprite covers one that is on. -/
theorem collision_iff :
    (m.screen.flipAll (m.drawFlips x y n)).2 = true ↔ m.Collides x y n := by
  have hinside : ∀ index ∈ m.drawFlips x y n, m.screen.IsIndex index := isIndex_drawFlips hscreen
  rw [hscreen.flipAll_collision_iff hinside (nodup_drawFlips hscreen hwidth), Collides]
  constructor
  · rintro ⟨index, hmember, hlit⟩
    have hplace := hscreen.contains_placeOf (hinside index hmember)
    refine ⟨m.screen.placeOf index, hplace,
      (covers_placeOf_iff hscreen hwidth hheight).2 hmember, ?_⟩
    rw [hscreen.pixel?_eq hplace, Screen.indexOf_placeOf, hlit]
  · rintro ⟨place, hplace, hcovers, hon⟩
    rw [hscreen.pixel?_eq hplace, Option.some_inj] at hon
    exact ⟨_, (mem_drawFlips_iff hscreen hwidth hheight hplace).2 hcovers, hon⟩

/-! ### What is drawn -/

theorem pixel?_drawn (hplace : m.screen.Contains place) :
    (m.drawn x y n).screen.pixel? place.x place.y =
      if m.Covers x y n place then (m.screen.pixel? place.x place.y).map not
      else m.screen.pixel? place.x place.y := by
  have hdrawn : (m.screen.flipAll (m.drawFlips x y n)).1.Contains place := by simpa using hplace
  show (m.screen.flipAll (m.drawFlips x y n)).1.pixel? place.x place.y = _
  rw [hscreen.flipAll.pixel?_eq hdrawn, hscreen.pixel?_eq hplace, Screen.indexOf_flipAll,
    hscreen.lit_flipAll_of_nodup (isIndex_drawFlips hscreen) (nodup_drawFlips hscreen hwidth)
      (hscreen.isIndex_indexOf hplace).1]
  simp only [mem_drawFlips_iff hscreen hwidth hheight hplace]
  split <;> rfl

/-- What is covered is pending as it has become. -/
theorem getElem?_pending_drawn (index : Int) :
    (m.drawn x y n).screen.pending[index]? =
      if m.Covers x y n (m.screen.placeOf index) then
        (m.drawn x y n).screen.pixel? (m.screen.placeOf index).x (m.screen.placeOf index).y
      else m.screen.pending[index]? := by
  have hpending : (m.drawn x y n).screen.pending[index]? = _ :=
    hscreen.getElem?_pending_flipAll (isIndex_drawFlips hscreen) index
  rw [hpending]
  simp only [covers_placeOf_iff hscreen hwidth hheight]
  split
  · rename_i hmember
    have hplace := hscreen.contains_placeOf (isIndex_drawFlips hscreen index hmember)
    have hdrawn : (m.screen.flipAll (m.drawFlips x y n)).1.Contains (m.screen.placeOf index) := by
      simpa using hplace
    have hpixel := hscreen.flipAll.pixel?_eq hdrawn
    rw [Screen.indexOf_flipAll, Screen.indexOf_placeOf] at hpixel
    exact hpixel.symm
  · rfl

end

/-- **A sprite turns around what it covers, and nothing else changes.**  On the standard picture,
with its rows in memory, the instruction comes to its end whether it is executed as an operand or
in a step.  A pixel is turned around if the sprite covers it; the flag register becomes one if a
pixel that is covered was on, and zero otherwise; and of the changes that are pending those of the
pixels that are covered are made new. -/
theorem draw_turns_covered (hscreen : m.screen.Complete) (hwidth : m.screen.width = 64)
    (hheight : m.screen.height = 32)
    (hrows : (n : Nat) = 0 ∨ m.memory.Inside m.cpu.index (n : Nat)) :
    ∃ after : Machine, (execute (drawWord x y n)).run m = .ok () after ∧
      (m.memory.readWord m.cpu.pc = .ok (drawWord x y n) →
        step.run m = .ok (drawWord x y n) (after.onCpu Cpu.advance)) ∧
      (∀ place, m.screen.Contains place →
        after.screen.pixel? place.x place.y =
          if m.Covers x y n place then (m.screen.pixel? place.x place.y).map not
          else m.screen.pixel? place.x place.y) ∧
      (m.Collides x y n → after.cpu.reg .flag = 1) ∧
      (¬ m.Collides x y n → after.cpu.reg .flag = 0) ∧
      (∀ index : Int, after.screen.pending[index]? =
        if m.Covers x y n (m.screen.placeOf index) then
          after.screen.pixel? (m.screen.placeOf index).x (m.screen.placeOf index).y
        else m.screen.pending[index]?) ∧
      after =
        { m with
          cpu := { m.cpu.setReg .flag (after.cpu.reg .flag) with operand := drawWord x y n }
          screen :=
            { m.screen with pixels := after.screen.pixels, pending := after.screen.pending } } := by
  refine ⟨_, run_execute_draw hscreen hrows, run_step_draw hscreen hrows, ?_, ?_, ?_, ?_, ?_⟩
  · intro place hplace
    exact pixel?_drawn hscreen hwidth hheight hplace
  · intro hcollides
    rw [reg_flag_drawn, if_pos]
    exact (collision_iff hscreen hwidth hheight).2 hcollides
  · intro hmisses
    rw [reg_flag_drawn, if_neg]
    exact mt (collision_iff hscreen hwidth hheight).1 hmisses
  · exact getElem?_pending_drawn hscreen hwidth hheight
  · exact drawn_eq (m.onCpu _) x y n

/-- A machine that is to draw two rows from near the right lower corner, with the column in the flag
register.  In the last row of the picture the leftmost pixel is on. -/
def drawingAtTheCorner : Machine :=
  { Machine.poweredOn ⟨#[0xF0, 0xFF, 0xDF, 0x02]⟩ 16 none (.cycle []) with
    cpu := { (Cpu.initial.setReg .flag 62).setReg .base 31 with pc := 2 }
    screen := Screen.standard.flip (Screen.standard.indexOf ⟨0, 31⟩) }

theorem complete_drawingAtTheCorner : drawingAtTheCorner.screen.Complete :=
  Screen.coherent_standard.complete.flip _

theorem contains_standard {x y : Int} (h : 0 ≤ x ∧ x < 64 ∧ 0 ≤ y ∧ y < 32) :
    Screen.standard.Contains ⟨x, y⟩ := h

theorem contains_drawingAtTheCorner (h : Screen.standard.Contains place) :
    drawingAtTheCorner.screen.Contains place :=
  Screen.contains_flip.2 h

theorem pixel?_drawingAtTheCorner (hplace : Screen.standard.Contains place) :
    drawingAtTheCorner.screen.pixel? place.x place.y = some (decide (place = ⟨0, 31⟩)) := by
  have hcomplete := Screen.coherent_standard.complete
  have hcorner : Screen.standard.Contains ⟨0, 31⟩ := contains_standard (by decide)
  have hflip := hcomplete.lit_flip (hcomplete.isIndex_indexOf hcorner)
    (hcomplete.isIndex_indexOf hplace).1
  have hscreen : drawingAtTheCorner.screen =
      Screen.standard.flip (Screen.standard.indexOf ⟨0, 31⟩) := rfl
  rw [complete_drawingAtTheCorner.pixel?_eq (contains_drawingAtTheCorner hplace), Option.some_inj,
    hscreen, Screen.indexOf_flip, hflip]
  simp only [hcomplete.indexOf_inj hcorner hplace]
  simp only [Screen.standard, Screen.lit_blank]
  by_cases hhere : place = ⟨0, 31⟩
  · simp [hhere]
  · simp [hhere, eq_comm]

/-- The first row goes around the right edge and turns the pixel off.  The second row lies below
the picture. -/
theorem draw_turns_covered_corner :
    ∃ after, (execute 0xDF02).run drawingAtTheCorner = .ok () after ∧
      step.run drawingAtTheCorner = .ok 0xDF02 (after.onCpu Cpu.advance) ∧
      after.screen.pixel? 63 31 = some true ∧ after.screen.pixel? 0 31 = some false ∧
      after.screen.pixel? 63 0 = some false ∧ after.cpu.reg .flag = 1 := by
  have hrows : drawingAtTheCorner.memory.Inside drawingAtTheCorner.cpu.index 2 := by decide
  have hleft : Screen.standard.Contains ⟨0, 31⟩ := contains_standard (by decide)
  have hright : Screen.standard.Contains ⟨63, 31⟩ := contains_standard (by decide)
  have htop : Screen.standard.Contains ⟨63, 0⟩ := contains_standard (by decide)
  have hcovered : drawingAtTheCorner.Covers .flag .base 2 ⟨0, 31⟩ := by decide
  have hcovered' : drawingAtTheCorner.Covers .flag .base 2 ⟨63, 31⟩ := by decide
  have hclipped : ¬ drawingAtTheCorner.Covers .flag .base 2 ⟨63, 0⟩ := by decide
  have hcollides : drawingAtTheCorner.Collides .flag .base 2 :=
    ⟨⟨0, 31⟩, contains_drawingAtTheCorner hleft, hcovered, pixel?_drawingAtTheCorner hleft⟩
  obtain ⟨after, hexecute, hstep, hpixels, hraised, -⟩ :=
    draw_turns_covered (x := .flag) (y := .base) (n := 2) complete_drawingAtTheCorner rfl rfl
      (Or.inr hrows)
  refine ⟨after, hexecute, hstep rfl, ?_, ?_, ?_, hraised hcollides⟩
  · rw [hpixels _ (contains_drawingAtTheCorner hright), if_pos hcovered',
      pixel?_drawingAtTheCorner hright]
    rfl
  · rw [hpixels _ (contains_drawingAtTheCorner hleft), if_pos hcovered,
      pixel?_drawingAtTheCorner hleft]
    rfl
  · rw [hpixels _ (contains_drawingAtTheCorner htop), if_neg hclipped,
      pixel?_drawingAtTheCorner htop]
    rfl

end Machine

end ChipEight
