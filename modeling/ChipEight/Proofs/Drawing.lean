/-
What drawing does to a picture, pixel by pixel.

Whatever is drawn comes down to a list of pixels, by their indices, that are flipped one after the
other (`flipAll`).  On a complete picture that list can be written down beforehand, since it hangs
on the dimensions alone: `rowFlips` is that of a row and `spriteFlips` that of a sprite.

Three things can be asked of a list of flips.  A pixel is on afterwards if it was on before or was
flipped an odd number of times, but not both.  What is pending afterwards are the pixels of the
list, as they have become, over whatever was pending before.  And a pixel was on when its turn came
if, in a list without repetitions, one of them was on at the start.
-/
import Mathlib.Algebra.Ring.Parity
import Mathlib.Data.Int.Bitwise
import Mathlib.Data.List.Nodup
import ChipEight.Proofs.Screen

namespace ChipEight.Screen

variable {s : Screen} {hits : List Int} {index other : Int} {place : Point}

/-! ### Places and indices -/

/-- The index of the pixel at a place of the picture. -/
def indexOf (s : Screen) (place : Point) : Int := place.y * s.width + place.x

/-- The place of the picture that two coordinates wrap around to. -/
def wrapped (s : Screen) (x y : Int) : Point := ⟨x % s.width, y % s.height⟩

theorem Complete.contains_wrapped (h : s.Complete) (x y : Int) : s.Contains (s.wrapped x y) :=
  ⟨Int.emod_nonneg x h.width_pos.ne', Int.emod_lt_of_pos x h.width_pos,
    Int.emod_nonneg y h.height_pos.ne', Int.emod_lt_of_pos y h.height_pos⟩

theorem wrapped_of_contains {x y : Int} (h : s.Contains ⟨x, y⟩) : s.wrapped x y = ⟨x, y⟩ := by
  obtain ⟨hleft, hright, htop, hbottom⟩ := h
  rw [wrapped, Int.emod_eq_of_lt hleft hright, Int.emod_eq_of_lt htop hbottom]

/-- Drawing on a place means the pixel that it wraps around to. -/
theorem Complete.target?_eq (h : s.Complete) (x y : Int) :
    s.target? x y = some (s.indexOf (s.wrapped x y)) := by
  obtain ⟨index, htarget, -⟩ := h.target? x y
  have hw := h.width_pos
  have hh := h.height_pos
  have hindex := htarget
  rw [Screen.target?, index?, if_neg (by omega)] at hindex
  obtain ⟨hwrapped, -⟩ := Option.filter_eq_some_iff.1 hindex
  rw [htarget, ← hwrapped, indexOf, wrapped, Int.fmod_eq_emod_of_nonneg _ hw.le,
    Int.fmod_eq_emod_of_nonneg _ hh.le]

theorem Complete.isIndex_indexOf (h : s.Complete) (hplace : s.Contains place) :
    s.IsIndex (s.indexOf place) := by
  obtain ⟨index, hindex, -, htarget⟩ := h.target?_of_contains (x := place.x) (y := place.y) hplace
  rw [h.target?_eq, wrapped_of_contains hplace, Option.some_inj] at htarget
  rwa [htarget]

theorem Complete.placeOf_indexOf (h : s.Complete) (hplace : s.Contains place) :
    s.placeOf (s.indexOf place) = place := by
  obtain ⟨index, -, hplaced, htarget⟩ := h.target?_of_contains (x := place.x) (y := place.y) hplace
  rw [h.target?_eq, wrapped_of_contains hplace, Option.some_inj] at htarget
  rw [htarget, hplaced]

theorem indexOf_placeOf (s : Screen) (index : Int) : s.indexOf (s.placeOf index) = index := by
  rw [indexOf, placeOf, Int.mul_comm, Int.mul_fdiv_add_fmod]

/-- Two places of the picture have two pixels. -/
theorem Complete.indexOf_inj (h : s.Complete) {place' : Point} (hplace : s.Contains place)
    (hplace' : s.Contains place') : s.indexOf place = s.indexOf place' ↔ place = place' := by
  constructor
  · intro hsame
    rw [← h.placeOf_indexOf hplace, hsame, h.placeOf_indexOf hplace']
  · rintro rfl
    rfl

/-- In a row of the picture only the column wraps. -/
theorem Complete.indexOf_wrapped_eq_iff (h : s.Complete) (hplace : s.Contains place) {x y : Int}
    (hrow : 0 ≤ y ∧ y < s.height) :
    s.indexOf (s.wrapped x y) = s.indexOf place ↔ place = ⟨x % s.width, y⟩ := by
  rw [h.indexOf_inj (h.contains_wrapped x y) hplace, wrapped, Int.emod_eq_of_lt hrow.1 hrow.2,
    eq_comm]

/-- Whether the pixel at a place of the picture is on. -/
theorem Complete.pixel?_eq (h : s.Complete) (hplace : s.Contains place) :
    s.pixel? place.x place.y = some (s.lit (s.indexOf place)) := by
  rw [pixel?, h.target?_eq, wrapped_of_contains hplace, Option.map_some]

theorem lit_blank (width height index : Int) : (blank width height).lit index = false := by
  rw [lit, blank, Array.getD_eq_getD_getElem?, Array.getElem?_replicate]
  split <;> rfl

/-! ### Flips -/

@[simp] theorem flip_width : (s.flip index).width = s.width := rfl

@[simp] theorem flip_height : (s.flip index).height = s.height := rfl

@[simp] theorem indexOf_flip : (s.flip index).indexOf place = s.indexOf place := rfl

@[simp] theorem contains_flip : (s.flip index).Contains place ↔ s.Contains place := Iff.rfl

theorem flipAll_cons (index : Int) (hits : List Int) :
    s.flipAll (index :: hits) =
      (((s.flip index).flipAll hits).1, s.lit index || ((s.flip index).flipAll hits).2) := rfl

@[simp] theorem flipAll_width : (s.flipAll hits).1.width = s.width := by
  induction hits generalizing s with
  | nil => rfl
  | cons index rest ih => rw [flipAll_cons, ih, flip_width]

@[simp] theorem flipAll_height : (s.flipAll hits).1.height = s.height := by
  induction hits generalizing s with
  | nil => rfl
  | cons index rest ih => rw [flipAll_cons, ih, flip_height]

/-- Flips change the pixels and what is pending. -/
theorem flipAll_eq (s : Screen) (hits : List Int) :
    (s.flipAll hits).1 =
      { s with
        pixels := (s.flipAll hits).1.pixels
        pending := (s.flipAll hits).1.pending } := by
  have hwidth := @flipAll_width s hits
  have hheight := @flipAll_height s hits
  generalize (s.flipAll hits).1 = after at hwidth hheight
  rw [← hwidth, ← hheight]

theorem Complete.flipAll (h : s.Complete) : (s.flipAll hits).1.Complete := by
  induction hits generalizing s with
  | nil => exact h
  | cons index rest ih => exact ih (h.flip index)

@[simp] theorem indexOf_flipAll : (s.flipAll hits).1.indexOf place = s.indexOf place := by
  rw [indexOf, flipAll_width, indexOf]

@[simp] theorem placeOf_flipAll : (s.flipAll hits).1.placeOf index = s.placeOf index := by
  rw [placeOf, flipAll_width, placeOf]

@[simp] theorem isIndex_flipAll : (s.flipAll hits).1.IsIndex index ↔ s.IsIndex index := by
  rw [IsIndex, flipAll_width, flipAll_height, IsIndex]

@[simp] theorem contains_flipAll : (s.flipAll hits).1.Contains place ↔ s.Contains place := by
  rw [Contains, flipAll_width, flipAll_height, Contains]

/-- Flipping some pixels and then others is flipping all of them. -/
theorem flipAll_append (earlier later : List Int) :
    s.flipAll (earlier ++ later) =
      (((s.flipAll earlier).1.flipAll later).1,
        (s.flipAll earlier).2 || ((s.flipAll earlier).1.flipAll later).2) := by
  induction earlier generalizing s with
  | nil => rfl
  | cons index rest ih => rw [List.cons_append, flipAll_cons, ih, flipAll_cons, Bool.or_assoc]

theorem Complete.lit_flip (h : s.Complete) (hindex : s.IsIndex index) (hother : 0 ≤ other) :
    (s.flip index).lit other = if index = other then !s.lit index else s.lit other :=
  Screen.lit_flip h.size hindex hother

/-- A pixel is turned around by every odd number of flips. -/
theorem Complete.lit_flipAll (h : s.Complete) (hinside : ∀ index ∈ hits, s.IsIndex index)
    (hother : 0 ≤ other) :
    (s.flipAll hits).1.lit other = (s.lit other ^^ decide (Odd (hits.count other))) := by
  induction hits generalizing s with
  | nil => simp [Screen.flipAll]
  | cons index rest ih =>
      have hrest := ih (h.flip index) fun later hlater => hinside later (by simp [hlater])
      rw [flipAll_cons, hrest, h.lit_flip (hinside index (by simp)) hother, List.count_cons]
      by_cases hsame : index = other
      · simp only [hsame, if_true, beq_self_eq_true, Nat.odd_add_one, decide_not, Bool.not_xor,
          Bool.xor_not]
      · simp [hsame]

theorem Complete.lit_flipAll_of_not_mem (h : s.Complete) (hinside : ∀ index ∈ hits, s.IsIndex index)
    (hother : 0 ≤ other) (hmissed : other ∉ hits) : (s.flipAll hits).1.lit other = s.lit other := by
  rw [h.lit_flipAll hinside hother, List.count_eq_zero.2 hmissed]
  simp

/-- Where no pixel is flipped twice, those that are flipped are turned around. -/
theorem Complete.lit_flipAll_of_nodup (h : s.Complete)
    (hinside : ∀ index ∈ hits, s.IsIndex index) (hnodup : hits.Nodup) (hother : 0 ≤ other) :
    (s.flipAll hits).1.lit other = if other ∈ hits then !s.lit other else s.lit other := by
  by_cases hmember : other ∈ hits
  · rw [h.lit_flipAll hinside hother, List.count_eq_one_of_mem hnodup hmember, if_pos hmember]
    simp
  · rw [h.lit_flipAll_of_not_mem hinside hother hmember, if_neg hmember]

theorem getElem?_pending_flip :
    (s.flip index).pending[other]? =
      if index = other then some (!s.lit index) else s.pending[other]? := by
  simp only [flip, Std.TreeMap.getElem?_insert, Std.LawfulEqCmp.compare_eq_iff_eq]

/-- What was flipped is pending as it has become, and nothing else is made pending. -/
theorem Complete.getElem?_pending_flipAll (h : s.Complete)
    (hinside : ∀ index ∈ hits, s.IsIndex index) (other : Int) :
    (s.flipAll hits).1.pending[other]? =
      if other ∈ hits then some ((s.flipAll hits).1.lit other) else s.pending[other]? := by
  induction hits generalizing s with
  | nil => simp [Screen.flipAll]
  | cons index rest ih =>
      have hlater : ∀ later ∈ rest, s.IsIndex later := fun later hlater =>
        hinside later (by simp [hlater])
      have hindex := hinside index (by simp)
      rw [flipAll_cons, ih (h.flip index) hlater, getElem?_pending_flip]
      by_cases hagain : other ∈ rest
      · rw [if_pos hagain, if_pos (by simp [hagain])]
      · rw [if_neg hagain]
        by_cases hsame : index = other
        · -- This was the last time that the pixel was flipped.
          subst hsame
          rw [if_pos rfl, if_pos (by simp), (h.flip index).lit_flipAll hlater hindex.1,
            List.count_eq_zero.2 hagain, h.lit_flip hindex hindex.1, if_pos rfl]
          simp
        · rw [if_neg hsame, if_neg (by simp [hagain, Ne.symm hsame])]

/-- Where no pixel is flipped twice, one was on when its turn came if one was on at the start. -/
theorem Complete.flipAll_collision_iff (h : s.Complete)
    (hinside : ∀ index ∈ hits, s.IsIndex index) (hnodup : hits.Nodup) :
    (s.flipAll hits).2 = true ↔ ∃ index ∈ hits, s.lit index = true := by
  induction hits generalizing s with
  | nil => simp [Screen.flipAll]
  | cons index rest ih =>
      obtain ⟨hfresh, hnodup'⟩ := List.nodup_cons.1 hnodup
      have hlater : ∀ later ∈ rest, s.IsIndex later := fun later hlater =>
        hinside later (by simp [hlater])
      have hsame : ∀ later ∈ rest, (s.flip index).lit later = s.lit later := by
        intro later hmember
        rw [h.lit_flip (hinside index (by simp)) (hlater later hmember).1, if_neg]
        rintro rfl
        exact hfresh hmember
      rw [flipAll_cons, Bool.or_eq_true, ih (h.flip index) hlater hnodup']
      simp only [List.mem_cons, exists_eq_or_imp]
      exact or_congr_right (exists_congr fun later => and_congr_right fun hmember => by
        rw [hsame later hmember])

/-! ### Rows -/

/-- The pixels that a row turns around, in drawing order. -/
def rowFlips (s : Screen) (x y row : Int) : List Int :=
  if y < 0 ∨ s.height ≤ y then []
  else (rowColumns row).map fun (i : Nat) => s.indexOf (s.wrapped (x + (i : Int)) y)

theorem Complete.rowHits?_eq (h : s.Complete) (x y row : Int) :
    s.rowHits? x y row = some (s.rowFlips x y row) := by
  rw [Screen.rowHits?, rowFlips]
  split
  · rfl
  · simp only [h.target?_eq]
    exact List.mapM_pure

theorem Complete.isIndex_rowFlips (h : s.Complete) {x y row : Int} :
    ∀ index ∈ s.rowFlips x y row, s.IsIndex index := by
  intro index hindex
  rw [rowFlips] at hindex
  split at hindex
  · cases hindex
  · obtain ⟨i, -, rfl⟩ := List.mem_map.1 hindex
    exact h.isIndex_indexOf (h.contains_wrapped _ _)

theorem Complete.drawRow?_eq (h : s.Complete) (x y row : Int) :
    s.drawRow? x y row = some (s.flipAll (s.rowFlips x y row)) := by
  rw [Screen.drawRow?, h.rowHits?_eq, Option.map_some]

theorem Complete.toggle?_eq (h : s.Complete) (x y : Int) :
    s.toggle? x y = some (s.flipAll [s.indexOf (s.wrapped x y)]).1 := by
  rw [toggle?, h.target?_eq, Option.map_some]
  rfl

theorem testBit_eq (n : Int) (i : Nat) : n.testBit i = decide (n >>> i % 2 = 1) := by
  cases n with
  | ofNat n =>
      show Nat.testBit n i = _
      rw [Nat.testBit_eq_decide_div_mod_eq, Int.shiftRight_eq_div_pow, decide_eq_decide]
      simp only [Int.ofNat_eq_natCast]
      norm_cast
  | negSucc n =>
      -- The bits of a number below zero are those of its complement, turned around.
      have hshift : Int.negSucc n >>> i = Int.negSucc (n >>> i) := rfl
      show (!Nat.testBit n i) = _
      rw [hshift, Nat.testBit_eq_decide_div_mod_eq, ← Nat.shiftRight_eq_div_pow, ← decide_not,
        decide_eq_decide]
      omega

/-- The bits of a row decide about its columns, the highest one about the leftmost column. -/
theorem rowColumns_eq (row : Int) :
    rowColumns row = (List.range 8).filter fun i => row.testBit (7 - i) := by
  simp only [rowColumns, testBit_eq]

/-- A row turns a place around that it wraps to. -/
theorem Complete.mem_rowFlips (h : s.Complete) (hplace : s.Contains place) {x y row : Int} :
    s.indexOf place ∈ s.rowFlips x y row ↔
      y = place.y ∧ ∃ i : Nat, i < 8 ∧ row.testBit (7 - i) = true ∧
        (x + (i : Int)) % s.width = place.x := by
  have hrows := hplace.2.2
  rw [rowFlips]
  by_cases hinside : 0 ≤ y ∧ y < s.height
  · rw [if_neg (by omega), List.mem_map]
    simp only [rowColumns_eq, List.mem_filter, List.mem_range,
      h.indexOf_wrapped_eq_iff hplace hinside]
    constructor
    · rintro ⟨i, ⟨hi, hbit⟩, rfl⟩
      exact ⟨rfl, i, hi, hbit, rfl⟩
    · rintro ⟨rfl, i, hi, hbit, hcolumn⟩
      exact ⟨i, ⟨hi, hbit⟩, by rw [hcolumn]⟩
  · rw [if_pos (by omega)]
    simp only [List.not_mem_nil, false_iff]
    rintro ⟨hrow, -⟩
    omega

/-- A row turns no place around twice, if it is not wider than the picture. -/
theorem Complete.nodup_rowFlips (h : s.Complete) (hwidth : 8 ≤ s.width) (x y row : Int) :
    (s.rowFlips x y row).Nodup := by
  rw [rowFlips]
  split
  · exact List.nodup_nil
  · rw [rowColumns_eq]
    refine List.Nodup.map_on ?_ (List.nodup_range.filter _)
    intro i hi j hj hsame
    have hi' : i < 8 := List.mem_range.1 (List.mem_filter.1 hi).1
    have hj' : j < 8 := List.mem_range.1 (List.mem_filter.1 hj).1
    rw [h.indexOf_inj (h.contains_wrapped _ _) (h.contains_wrapped _ _), wrapped, wrapped,
      Point.mk.injEq] at hsame
    have hdvd := Int.dvd_of_emod_eq_zero (Int.emod_eq_emod_iff_emod_sub_eq_zero.1 hsame.1)
    rw [add_sub_add_left_eq_sub] at hdvd
    have hzero := Int.eq_zero_of_abs_lt_dvd hdvd (by rw [abs_lt]; omega)
    omega

/-! ### Sprites -/

/-- The pixels that a sprite turns around, in drawing order. -/
def spriteFlips (s : Screen) (x y : Int) : List UInt8 → List Int
  | [] => []
  | row :: rest => s.rowFlips x y row.toNat ++ s.spriteFlips x (y + 1) rest

theorem rowFlips_flipAll (x y row : Int) :
    (s.flipAll hits).1.rowFlips x y row = s.rowFlips x y row := by
  simp only [rowFlips, indexOf, wrapped, flipAll_width, flipAll_height]

theorem spriteFlips_flipAll (x : Int) (rows : List UInt8) :
    ∀ y, (s.flipAll hits).1.spriteFlips x y rows = s.spriteFlips x y rows := by
  induction rows with
  | nil => intro y; rfl
  | cons row rest ih => intro y; rw [spriteFlips, rowFlips_flipAll, ih, spriteFlips]

/-- A sprite is drawn by flipping its pixels. -/
theorem Complete.drawSprite?_eq (x : Int) (rows : List UInt8) :
    ∀ {s : Screen} (y : Int), s.Complete →
      s.drawSprite? x y rows = some (s.flipAll (s.spriteFlips x y rows)) := by
  induction rows with
  | nil => intro s y h; rfl
  | cons row rest ih =>
      intro s y h
      simp only [drawSprite?, h.drawRow?_eq, Option.bind_eq_bind, Option.bind_some,
        ih (y + 1) h.flipAll, spriteFlips_flipAll, spriteFlips, flipAll_append]
      rfl

theorem Complete.isIndex_spriteFlips (h : s.Complete) {x : Int} {rows : List UInt8} :
    ∀ {y}, ∀ index ∈ s.spriteFlips x y rows, s.IsIndex index := by
  induction rows with
  | nil => intro y index hindex; cases hindex
  | cons row rest ih =>
      intro y index hindex
      rcases List.mem_append.1 hindex with hhere | hbelow
      · exact h.isIndex_rowFlips index hhere
      · exact ih index hbelow

/-- A sprite turns a place around if the row that lies there does. -/
theorem Complete.mem_spriteFlips (h : s.Complete) (hplace : s.Contains place) {x : Int}
    {rows : List UInt8} :
    ∀ {y : Int}, s.indexOf place ∈ s.spriteFlips x y rows ↔
      ∃ (r : Nat) (row : UInt8), rows[r]? = some row ∧ y + (r : Int) = place.y ∧
        ∃ i : Nat, i < 8 ∧ row.toNat.testBit (7 - i) = true ∧
          (x + (i : Int)) % s.width = place.x := by
  induction rows with
  | nil => intro y; simp [spriteFlips]
  | cons row rest ih =>
      intro y
      rw [spriteFlips, List.mem_append, h.mem_rowFlips hplace, ih]
      constructor
      · rintro (⟨hrow, hcolumn⟩ | ⟨r, below, hbelow, hrow, hcolumn⟩)
        · exact ⟨0, row, rfl, by simpa using hrow, hcolumn⟩
        · exact ⟨r + 1, below, hbelow, by omega, hcolumn⟩
      · rintro ⟨r, below, hbelow, hrow, hcolumn⟩
        cases r with
        | zero =>
            cases hbelow
            exact Or.inl ⟨by simpa using hrow, hcolumn⟩
        | succ r => exact Or.inr ⟨r, below, hbelow, by omega, hcolumn⟩

/-- A sprite turns no place around twice. -/
theorem Complete.nodup_spriteFlips (h : s.Complete) (hwidth : 8 ≤ s.width) (x : Int)
    (rows : List UInt8) : ∀ y, (s.spriteFlips x y rows).Nodup := by
  induction rows with
  | nil => intro y; exact List.nodup_nil
  | cons row rest ih =>
      intro y
      refine List.nodup_append.2 ⟨h.nodup_rowFlips hwidth x y _, ih (y + 1), ?_⟩
      rintro index hhere index' hbelow rfl
      -- The row lies above all the others.
      have hplace := h.contains_placeOf (h.isIndex_rowFlips index hhere)
      rw [← indexOf_placeOf s index] at hhere hbelow
      obtain ⟨hrow, -⟩ := (h.mem_rowFlips hplace).1 hhere
      obtain ⟨r, -, -, hrow', -⟩ := (h.mem_spriteFlips hplace).1 hbelow
      omega

end ChipEight.Screen
