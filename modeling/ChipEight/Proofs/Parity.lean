/-
Every other hit shows.

Drawing flips pixels, so the picture can be told from how often each of its places was hit since it
was cleared last: a pixel is on after an odd number of hits.  `Operation.hits` says how often one
operation hits a place, in terms of coordinates only.  `Tallied` ties a picture to the history of
its operations by this count; every operation keeps it, and it decides all pixels.

Nothing but the number of hits matters.  So the order of what is drawn makes no difference, and
what is drawn twice has not been drawn.
-/
import Mathlib.Data.List.DropRight
import ChipEight.Proofs.Drawing

namespace ChipEight.Screen

/-! ### Operations -/

/-- Something that is done to a picture. -/
inductive Operation where
  /-- The pixel at a place is turned around. -/
  | toggle (x y : Int)
  /-- A row of a sprite is drawn from a place to the right. -/
  | row (x y bits : Int)
  | clear
  | invalidate
  /-- The pending changes are taken out. -/
  | handOver
  deriving DecidableEq, Repr

/-- The picture after an operation, if it can be carried out. -/
def operate? (s : Screen) : Operation → Option Screen
  | .toggle x y => s.toggle? x y
  | .row x y bits => (s.drawRow? x y bits).map Prod.fst
  | .clear => some s.cleared
  | .invalidate => some s.invalidate
  | .handOver => some s.handOver.1

/-- The picture after some operations, one after the other. -/
def after? (s : Screen) (operations : List Operation) : Option Screen :=
  operations.foldlM operate? s

/-! ### Hits -/

/-- How often an operation hits a place of a picture.  A single pixel wraps around in both
directions.  A row wraps to the right, with its highest bit the leftmost, and hits nothing if it
lies above or below the picture. -/
def Operation.hits (width height : Int) (place : Point) : Operation → Nat
  | toggle x y => if place = ⟨x % width, y % height⟩ then 1 else 0
  | row x y bits =>
    if 0 ≤ y ∧ y < height then
      (List.range 8).countP fun i =>
        bits.testBit (7 - i) && decide (place = ⟨(x + (i : Int)) % width, y⟩)
    else 0
  | clear => 0
  | invalidate => 0
  | handOver => 0

/-- How often a place was hit since the picture was cleared last. -/
def hitsSinceClear (width height : Int) (history : List Operation) (place : Point) : Nat :=
  ((history.rtakeWhile (· ≠ .clear)).map (·.hits width height place)).sum

variable {width height : Int} {s s' : Screen} {history history' operations : List Operation}
  {operation : Operation} {place : Point}

theorem hitsSinceClear_clear : hitsSinceClear width height (history ++ [.clear]) place = 0 := by
  rw [hitsSinceClear, List.rtakeWhile_concat_neg _ _ _ (by simp)]
  rfl

theorem hitsSinceClear_concat (h : operation ≠ .clear) :
    hitsSinceClear width height (history ++ [operation]) place =
      hitsSinceClear width height history place + operation.hits width height place := by
  rw [hitsSinceClear, List.rtakeWhile_concat_pos _ _ _ (by simpa using h), List.map_append,
    List.sum_append]
  simp [hitsSinceClear]

theorem hitsSinceClear_append (h : ∀ operation ∈ operations, operation ≠ .clear) :
    hitsSinceClear width height (history ++ operations) place =
      hitsSinceClear width height history place +
        (operations.map (·.hits width height place)).sum := by
  induction operations using List.reverseRecOn with
  | nil => simp
  | append_singleton operations operation ih =>
      have hearlier := ih fun earlier hmember => h earlier (by simp [hmember])
      rw [← List.append_assoc, hitsSinceClear_concat (h operation (by simp)), hearlier]
      simp [Nat.add_assoc]

/-- The pixels that an operation flips are those at the places that it hits. -/
theorem Complete.count_rowFlips (h : s.Complete) (hplace : s.Contains place) (x y bits : Int) :
    (s.rowFlips x y bits).count (s.indexOf place) =
      (Operation.row x y bits).hits s.width s.height place := by
  rw [Operation.hits, rowFlips]
  by_cases hinside : 0 ≤ y ∧ y < s.height
  · rw [if_pos hinside, if_neg (by omega), rowColumns_eq, List.count, List.countP_map,
      List.countP_filter]
    refine List.countP_congr fun i _ => ?_
    simp only [Function.comp_apply, Bool.and_eq_true, beq_iff_eq, decide_eq_true_eq,
      h.indexOf_wrapped_eq_iff hplace hinside]
    exact and_comm
  · rw [if_neg hinside, if_pos (by omega)]
    rfl

theorem Complete.count_toggled (h : s.Complete) (hplace : s.Contains place) (x y : Int) :
    [s.indexOf (s.wrapped x y)].count (s.indexOf place) =
      (Operation.toggle x y).hits s.width s.height place := by
  have hsame := h.indexOf_inj hplace (h.contains_wrapped x y)
  rw [List.count_singleton, Operation.hits, ← wrapped]
  by_cases hhit : place = s.wrapped x y
  · rw [if_pos hhit, if_pos (by rw [hhit, beq_self_eq_true])]
  · rw [if_neg hhit, if_neg (by rw [beq_iff_eq, eq_comm, hsame]; exact hhit)]

/-! ### The tally -/

theorem decide_odd_add (a b : Nat) : decide (Odd (a + b)) = (decide (Odd a) ^^ decide (Odd b)) := by
  by_cases ha : Odd a
  · by_cases hb : Odd b
    · simp [ha, hb, ha.add_odd hb]
    · simp [ha, hb, ha.add_even (Nat.not_odd_iff_even.1 hb)]
  · simp [ha, Nat.odd_add]

/-- A complete picture of which each pixel is on if its place was hit an odd number of times. -/
structure Tallied (width height : Int) (history : List Operation) (s : Screen) : Prop where
  complete : s.Complete
  width_eq : s.width = width
  height_eq : s.height = height
  lit : ∀ place, s.Contains place →
    s.lit (s.indexOf place) = decide (Odd (hitsSinceClear width height history place))

theorem tallied_blank (hw : 1 ≤ width) (hh : 1 ≤ height)
    (hclear : ∀ place, hitsSinceClear width height history place = 0) :
    (blank width height).Tallied width height history where
  complete := (coherent_blank (by omega) (by omega)).complete
  width_eq := rfl
  height_eq := rfl
  lit := by
    intro place _
    rw [lit_blank, hclear]
    rfl

/-- Flipping what an operation flips counts as the hits of that operation. -/
theorem Tallied.flipAll (h : s.Tallied width height history) {hits : List Int}
    (hinside : ∀ index ∈ hits, s.IsIndex index) (hother : operation ≠ .clear)
    (hcount : ∀ place, s.Contains place →
      hits.count (s.indexOf place) = operation.hits s.width s.height place) :
    (s.flipAll hits).1.Tallied width height (history ++ [operation]) where
  complete := h.complete.flipAll
  width_eq := by rw [flipAll_width, h.width_eq]
  height_eq := by rw [flipAll_height, h.height_eq]
  lit := by
    intro place hplace
    rw [contains_flipAll] at hplace
    rw [indexOf_flipAll, h.complete.lit_flipAll hinside (h.complete.isIndex_indexOf hplace).1,
      h.lit place hplace, hcount place hplace, hitsSinceClear_concat hother, decide_odd_add,
      h.width_eq, h.height_eq]

/-- What is pending does not count, and neither does an operation that changes nothing else. -/
theorem Tallied.withPending (h : s.Tallied width height history) (hother : operation ≠ .clear)
    (hnone : ∀ place, operation.hits width height place = 0) (pending : Std.TreeMap Int Bool) :
    ({ s with pending := pending } : Screen).Tallied width height (history ++ [operation]) where
  complete := ⟨h.complete.width_pos, h.complete.height_pos, h.complete.size⟩
  width_eq := h.width_eq
  height_eq := h.height_eq
  lit := by
    intro place hplace
    rw [hitsSinceClear_concat hother, hnone, Nat.add_zero]
    exact h.lit place hplace

/-- Every operation can be carried out, and is accounted for. -/
theorem Tallied.operate? (h : s.Tallied width height history) (operation : Operation) :
    ∃ after, s.operate? operation = some after ∧
      after.Tallied width height (history ++ [operation]) := by
  cases operation with
  | toggle x y =>
      refine ⟨_, h.complete.toggle?_eq x y, h.flipAll ?_ (by simp) ?_⟩
      · simpa using h.complete.isIndex_indexOf (h.complete.contains_wrapped x y)
      · intro place hplace
        exact h.complete.count_toggled hplace x y
  | row x y bits =>
      refine ⟨_, by rw [Screen.operate?, h.complete.drawRow?_eq, Option.map_some],
        h.flipAll h.complete.isIndex_rowFlips (by simp) ?_⟩
      intro place hplace
      exact h.complete.count_rowFlips hplace x y bits
  | clear =>
      refine ⟨s.cleared, rfl, ?_⟩
      rw [cleared, h.width_eq, h.height_eq]
      refine tallied_blank ?_ ?_ fun place => hitsSinceClear_clear
      · rw [← h.width_eq]
        exact h.complete.width_pos
      · rw [← h.height_eq]
        exact h.complete.height_pos
  | invalidate => exact ⟨s.invalidate, rfl, h.withPending (by simp) (fun _ => rfl) _⟩
  | handOver => exact ⟨s.handOver.1, rfl, h.withPending (by simp) (fun _ => rfl) _⟩

theorem Tallied.after? (operations : List Operation) :
    ∀ {s : Screen} {history : List Operation}, s.Tallied width height history →
      ∃ after, s.after? operations = some after ∧
        after.Tallied width height (history ++ operations) := by
  induction operations with
  | nil =>
      intro s history h
      exact ⟨s, rfl, by rwa [List.append_nil]⟩
  | cons operation rest ih =>
      intro s history h
      obtain ⟨between, happlied, hbetween⟩ := h.operate? operation
      obtain ⟨after, hrest, hafter⟩ := ih hbetween
      rw [List.append_assoc, List.singleton_append] at hafter
      refine ⟨after, ?_, hafter⟩
      rw [Screen.after?, List.foldlM_cons, happlied]
      exact hrest

/-- Nothing but the parity of the hits decides about a picture. -/
theorem Tallied.samePicture (h : s.Tallied width height history)
    (h' : s'.Tallied width height history')
    (hsame : ∀ place, Odd (hitsSinceClear width height history' place) ↔
      Odd (hitsSinceClear width height history place)) : s.SamePicture s' := by
  have hw : s'.width = s.width := h'.width_eq.trans h.width_eq.symm
  have hh : s'.height = s.height := h'.height_eq.trans h.height_eq.symm
  have hsize : s'.pixels.size = s.pixels.size := by
    have hs := h.complete.size
    have hs' := h'.complete.size
    rw [hw, hh] at hs'
    omega
  refine ⟨hw, hh, Array.ext hsize fun i hi' hi => ?_⟩
  have hindex : s.IsIndex i := ⟨by omega, by rw [← h.complete.size]; omega⟩
  have hplace := h.complete.contains_placeOf hindex
  have hplace' : s'.Contains (s.placeOf i) := by
    rw [Contains, hw, hh]
    exact hplace
  have hindex' : s'.indexOf (s.placeOf i) = i := by
    rw [indexOf, hw, ← indexOf, indexOf_placeOf]
  have hlit : s'.lit i = s.lit i := by
    rw [← hindex', h'.lit _ hplace', hindex', ← indexOf_placeOf s i, h.lit _ hplace,
      indexOf_placeOf, decide_eq_decide]
    exact hsame _
  rw [lit_of_nonneg (by omega), lit_of_nonneg (by omega)] at hlit
  simpa [Array.getD_eq_getD_getElem?, hi, hi'] using hlit

/-- **A pixel is on if it was hit an odd number of times** since the picture was cleared last,
whatever else was done to the picture.  Every drawing can be carried out; the order of what is
drawn makes no difference to the picture, and drawing the same things twice leaves it as it was. -/
theorem pixel_on_iff_odd_hits (hw : 1 ≤ width) (hh : 1 ≤ height) (history : List Operation) :
    ∃ s, (blank width height).after? history = some s ∧
      (∀ x y, 0 ≤ x → x < width → 0 ≤ y → y < height →
        s.pixel? x y = some (decide (Odd (hitsSinceClear width height history ⟨x, y⟩)))) ∧
      ∀ draws : List Operation, (∀ draw ∈ draws, draw ≠ .clear) →
        (∀ reordered, draws.Perm reordered →
          ∃ after after', s.after? draws = some after ∧ s.after? reordered = some after' ∧
            after.SamePicture after') ∧
        ∃ after, s.after? (draws ++ draws) = some after ∧ s.SamePicture after := by
  have hblank : (blank width height).Tallied width height [] := tallied_blank hw hh fun _ => rfl
  obtain ⟨s, hs, htallied⟩ := hblank.after? history
  rw [List.nil_append] at htallied
  refine ⟨s, hs, ?_, ?_⟩
  · intro x y hleft hright htop hbottom
    have hplace : s.Contains ⟨x, y⟩ := by
      rw [Contains, htallied.width_eq, htallied.height_eq]
      exact ⟨hleft, hright, htop, hbottom⟩
    rw [htallied.complete.pixel?_eq hplace, htallied.lit _ hplace]
  · intro draws hdraws
    constructor
    · intro reordered hperm
      have hreordered : ∀ draw ∈ reordered, draw ≠ .clear := fun draw hdraw =>
        hdraws draw (hperm.mem_iff.2 hdraw)
      obtain ⟨after, hafter, htallied'⟩ := htallied.after? draws
      obtain ⟨after', hafter', htallied''⟩ := htallied.after? reordered
      refine ⟨after, after', hafter, hafter', htallied'.samePicture htallied'' fun place => ?_⟩
      rw [hitsSinceClear_append hdraws, hitsSinceClear_append hreordered, (hperm.map _).sum_nat]
    · have htwice : ∀ draw ∈ draws ++ draws, draw ≠ .clear := by simpa using hdraws
      obtain ⟨after, hafter, htallied'⟩ := htallied.after? (draws ++ draws)
      refine ⟨after, hafter, htallied.samePicture htallied' fun place => ?_⟩
      rw [hitsSinceClear_append htwice, List.map_append, List.sum_append]
      simp [Nat.odd_add]

/-- On a picture of three columns a row of eight hits a column three times and another one twice.
What was drawn before the picture was cleared does not count. -/
theorem pixel_on_iff_odd_hits_narrow :
    ∃ s, (blank 3 2).after? [.toggle (-1) 5, .clear, .row (-1) 1 0xFF, .handOver, .row 0 2 0xFF] =
        some s ∧
      s.pixel? 0 1 = some true ∧ s.pixel? 1 1 = some false ∧ s.pixel? 2 1 = some true ∧
      s.pixel? 2 0 = some false ∧
      (∃ after after', s.after? [.row 2 0 0x81, .toggle 7 3] = some after ∧
        s.after? [.toggle 7 3, .row 2 0 0x81] = some after' ∧ after.SamePicture after') ∧
      ∃ after, s.after? [.row 2 0 0x81, .toggle 7 3, .row 2 0 0x81, .toggle 7 3] = some after ∧
        s.SamePicture after := by
  have hwidth : (1 : Int) ≤ 3 := by decide
  have hheight : (1 : Int) ≤ 2 := by decide
  obtain ⟨s, hs, hpixels, hdraws⟩ := pixel_on_iff_odd_hits hwidth hheight
    [.toggle (-1) 5, .clear, .row (-1) 1 0xFF, .handOver, .row 0 2 0xFF]
  obtain ⟨horder, htwice⟩ := hdraws [.row 2 0 0x81, .toggle 7 3] (by decide)
  refine ⟨s, hs, ?_, ?_, ?_, ?_, horder _ (.swap _ _ _), htwice⟩
  · exact (hpixels 0 1 (by decide) (by decide) (by decide) (by decide)).trans (by decide)
  · exact (hpixels 1 1 (by decide) (by decide) (by decide) (by decide)).trans (by decide)
  · exact (hpixels 2 1 (by decide) (by decide) (by decide) (by decide)).trans (by decide)
  · exact (hpixels 2 0 (by decide) (by decide) (by decide) (by decide)).trans (by decide)

end ChipEight.Screen
