/-
What drawing needs of a picture, and what it keeps.

A picture is *complete* when it has one pixel for every place.  On a complete picture every
place wraps to a pixel, so no sprite is ever turned away.  It is *coherent* when, besides,
every change that is pending shows the pixel as it stands now.

Drawing a sprite is nothing but flipping pixels, one after the other.  So whatever holds of
complete pictures and is kept when one pixel of them is flipped is kept by every sprite, and
rows and sprites are gone through once, for any such condition (`KeptByDrawing`).  A flip turns
a pixel and notes the same change in one go, which is why being coherent is such a condition;
the argument about single pixels rests on `lit_flip`: flipping a pixel is seen at its own index
and at no other.

Indices and places are two names of a pixel.  An index has the place that it is split into by the
width, and every place of the picture is that of exactly one index.
-/
import Mathlib.Data.List.Nodup
import Mathlib.Tactic.Linarith
import Std.Data.TreeMap.Lemmas
import ChipEight.Screen

namespace ChipEight.Screen

/-- There is a pixel for every place. -/
structure Complete (s : Screen) : Prop where
  width_pos : 0 < s.width
  height_pos : 0 < s.height
  size : (s.pixels.size : Int) = s.width * s.height

/-- There is a pixel for every place, and what is pending is how the pixel stands. -/
structure Coherent (width height : Int) (s : Screen) : Prop where
  width_pos : 0 < width
  height_pos : 0 < height
  width_eq : s.width = width
  height_eq : s.height = height
  size : (s.pixels.size : Int) = width * height
  pending : ∀ index on, s.pending[index]? = some on →
    0 ≤ index ∧ index < width * height ∧ s.lit index = on

/-- Two pictures have the same pixels. -/
structure SamePicture (s other : Screen) : Prop where
  width : other.width = s.width
  height : other.height = s.height
  pixels : other.pixels = s.pixels

variable {width height : Int} {s : Screen}

theorem Coherent.complete (h : s.Coherent width height) : s.Complete where
  width_pos := by rw [h.width_eq]; exact h.width_pos
  height_pos := by rw [h.height_eq]; exact h.height_pos
  size := by rw [h.size, h.width_eq, h.height_eq]

/-! ### The whole picture -/

/-- Every pixel is pending as it stands, and nothing else is. -/
theorem getElem?_allPending (pixels : Array Bool) (index : Int) :
    (allPending pixels)[index]? =
      if 0 ≤ index ∧ index < pixels.size then some (pixels.getD index.toNat false) else none := by
  have key : ∀ n : Nat, ((List.range n).foldl
      (fun pending (i : Nat) => pending.insert (i : Int) (pixels.getD i false))
      (∅ : Std.TreeMap Int Bool))[index]? =
        if 0 ≤ index ∧ index < n then some (pixels.getD index.toNat false) else none := by
    intro n
    induction n with
    | zero =>
        rw [if_neg (by omega)]
        exact Std.TreeMap.getElem?_emptyc
    | succ n ih =>
        rw [List.range_succ, List.foldl_append, List.foldl_cons, List.foldl_nil,
          Std.TreeMap.getElem?_insert, ih]
        by_cases hlast : (n : Int) = index
        · rw [if_pos (by rw [hlast]; exact Std.ReflCmp.compare_self), if_pos (by omega)]
          rw [← hlast, Int.toNat_natCast]
        · rw [if_neg (by rw [Std.LawfulEqCmp.compare_eq_iff_eq]; exact hlast)]
          by_cases hbefore : 0 ≤ index ∧ index < n
          · rw [if_pos hbefore, if_pos (by omega)]
          · rw [if_neg hbefore, if_neg (by omega)]
  exact key pixels.size

theorem lit_of_nonneg {index : Int} (h : 0 ≤ index) :
    s.lit index = s.pixels.getD index.toNat false := by
  rw [lit, slot, if_neg (by omega)]

theorem pixel_of_lit {index : Int} {on : Bool} (hlow : 0 ≤ index)
    (hhigh : index < s.pixels.size) (hlit : s.lit index = on) :
    s.pixels[index.toNat]? = some on := by
  have hslot : index.toNat < s.pixels.size := by omega
  rw [lit_of_nonneg hlow, Array.getD_eq_getD_getElem?, Array.getElem?_eq_getElem hslot,
    Option.getD_some] at hlit
  rw [Array.getElem?_eq_getElem hslot, hlit]

/-- A picture with the right number of pixels is coherent once it is all pending. -/
theorem coherent_invalidate (hw : 0 < s.width) (hh : 0 < s.height)
    (hsize : (s.pixels.size : Int) = s.width * s.height) :
    s.invalidate.Coherent s.width s.height where
  width_pos := hw
  height_pos := hh
  width_eq := rfl
  height_eq := rfl
  size := hsize
  pending := by
    intro index on hon
    rw [invalidate, getElem?_allPending] at hon
    split at hon
    · rename_i hinside
      cases hon
      refine ⟨hinside.1, by rw [← hsize]; exact hinside.2, ?_⟩
      rw [lit_of_nonneg hinside.1]
      rfl
    · cases hon

theorem coherent_blank (hw : 0 < width) (hh : 0 < height) :
    (blank width height).Coherent width height := by
  refine coherent_invalidate (s := blank width height) hw hh ?_
  have hpos : 0 < width * height := Int.mul_pos hw hh
  simp only [blank, Array.size_replicate]
  omega

theorem coherent_standard : standard.Coherent standardWidth standardHeight :=
  coherent_blank (by decide) (by decide)

theorem Coherent.cleared (h : s.Coherent width height) : s.cleared.Coherent width height := by
  rw [Screen.cleared, h.width_eq, h.height_eq]
  exact coherent_blank h.width_pos h.height_pos

theorem Coherent.handOver (h : s.Coherent width height) :
    s.handOver.1.Coherent width height := by
  refine ⟨h.width_pos, h.height_pos, h.width_eq, h.height_eq, h.size, ?_⟩
  intro index on hon
  rw [Screen.handOver, Std.TreeMap.getElem?_emptyc] at hon
  cases hon

/-! ### Single pixels -/

/-- An index of one of the pixels, counted from the first. -/
def IsIndex (s : Screen) (index : Int) : Prop := 0 ≤ index ∧ index < s.width * s.height

/-- Every place wraps to a pixel. -/
theorem Complete.target? (h : s.Complete) (x y : Int) :
    ∃ index, s.target? x y = some index ∧ s.IsIndex index := by
  have hw := h.width_pos
  have hh := h.height_pos
  have hcolumn := Int.fmod_nonneg_of_pos x hw
  have hcolumn' := Int.fmod_lt_of_pos x hw
  have hrow := Int.fmod_nonneg_of_pos y hh
  have hrow' := Int.fmod_lt_of_pos y hh
  have hlow : 0 ≤ Int.fmod y s.height * s.width + Int.fmod x s.width := by positivity
  have hhigh : Int.fmod y s.height * s.width + Int.fmod x s.width < s.width * s.height := by
    nlinarith
  refine ⟨Int.fmod y s.height * s.width + Int.fmod x s.width, ?_, hlow, hhigh⟩
  rw [Screen.target?, index?, if_neg (by omega), Option.filter_some, if_pos]
  rw [hasPixel, h.size, Bool.and_eq_true, decide_eq_true_eq, decide_eq_true_eq]
  omega

/-- Every pixel of a blank picture is pending. -/
theorem pending_blank {index : Int} (hw : 0 < width) (hh : 0 < height)
    (hindex : (blank width height).IsIndex index) :
    (blank width height).pending[index]? ≠ none := by
  have hsize := (coherent_blank hw hh).complete.size
  obtain ⟨hlow, hhigh⟩ := hindex
  have hpending := getElem?_allPending (blank width height).pixels index
  rw [if_pos ⟨hlow, by omega⟩] at hpending
  show (allPending (blank width height).pixels)[index]? ≠ none
  simp [hpending]

theorem Complete.flip (h : s.Complete) (index : Int) : (s.flip index).Complete where
  width_pos := h.width_pos
  height_pos := h.height_pos
  size := by rw [Screen.flip, Array.size_setIfInBounds, h.size]

/-- A flip is seen at its own index and at no other. -/
theorem lit_flip {index other : Int} (hsize : (s.pixels.size : Int) = width * height)
    (hindex : 0 ≤ index ∧ index < width * height) (hother : 0 ≤ other) :
    (s.flip index).lit other = if index = other then !s.lit index else s.lit other := by
  rw [lit_of_nonneg hother, lit_of_nonneg hother, flip, slot, if_neg (by omega),
    Array.getD_eq_getD_getElem?, Array.getElem?_setIfInBounds]
  by_cases hsame : index = other
  · rw [if_pos (by rw [hsame]), if_pos (by omega), if_pos hsame]
    rfl
  · rw [if_neg (by omega), if_neg hsame, Array.getD_eq_getD_getElem?]

theorem Coherent.flip (h : s.Coherent width height) {index : Int}
    (hindex : 0 ≤ index ∧ index < width * height) : (s.flip index).Coherent width height where
  width_pos := h.width_pos
  height_pos := h.height_pos
  width_eq := h.width_eq
  height_eq := h.height_eq
  size := by rw [Screen.flip, Array.size_setIfInBounds, h.size]
  pending := by
    intro other on hon
    simp only [Screen.flip, Std.TreeMap.getElem?_insert, Std.LawfulEqCmp.compare_eq_iff_eq] at hon
    by_cases hsame : index = other
    · rw [if_pos hsame, Option.some_inj] at hon
      subst hsame
      refine ⟨hindex.1, hindex.2, ?_⟩
      rw [lit_flip h.size hindex hindex.1, if_pos rfl, hon]
    · rw [if_neg hsame] at hon
      obtain ⟨hlow, hhigh, hlit⟩ := h.pending other on hon
      refine ⟨hlow, hhigh, ?_⟩
      rw [lit_flip h.size hindex hlow, if_neg hsame, hlit]

/-! ### Rows and sprites -/

/-- A condition of complete pictures that is kept when one of their pixels is flipped and when all
of them are cleared. -/
structure KeptByDrawing (P : Screen → Prop) : Prop where
  complete : ∀ {s}, P s → s.Complete
  cleared : ∀ {s}, P s → P s.cleared
  flip : ∀ {s index}, P s → s.IsIndex index → P (s.flip index)

theorem keptByDrawing_complete : KeptByDrawing Complete where
  complete := id
  cleared := fun h => (coherent_blank h.width_pos h.height_pos).complete
  flip := fun h _ => h.flip _

theorem keptByDrawing_coherent : KeptByDrawing (Coherent width height) where
  complete := Coherent.complete
  cleared := Coherent.cleared
  flip := by
    intro s index h hindex
    rw [IsIndex, h.width_eq, h.height_eq] at hindex
    exact h.flip hindex

/-- The pixels of a row are found if each of them is. -/
theorem mapM_target {columns : List Nat} {place : Nat → Option Int} {P : Int → Prop}
    (h : ∀ i, ∃ index, place i = some index ∧ P index) :
    ∃ hits, columns.mapM place = some hits ∧ ∀ index ∈ hits, P index := by
  induction columns with
  | nil => exact ⟨[], rfl, by simp⟩
  | cons i rest ih =>
      obtain ⟨index, hindex, hP⟩ := h i
      obtain ⟨hits, hhits, hall⟩ := ih
      refine ⟨index :: hits, ?_, ?_⟩
      · simp [List.mapM_cons, hindex, hhits]
      · simp only [List.mem_cons, forall_eq_or_imp]
        exact ⟨hP, hall⟩

theorem Complete.rowHits? (h : s.Complete) (x y row : Int) :
    ∃ hits, s.rowHits? x y row = some hits ∧ ∀ index ∈ hits, s.IsIndex index := by
  unfold Screen.rowHits?
  split
  · exact ⟨[], rfl, by simp⟩
  · exact mapM_target fun i => h.target? (x + (i : Int)) y

section

variable {P : Screen → Prop} (kept : KeptByDrawing P)

include kept

theorem KeptByDrawing.flipAll {hits : List Int} :
    ∀ {s : Screen}, P s → (∀ index ∈ hits, s.IsIndex index) → P (s.flipAll hits).1 := by
  induction hits with
  | nil => intro s h _; exact h
  | cons index rest ih =>
      intro s h hhits
      refine ih (kept.flip h (hhits index (by simp))) ?_
      intro other hother
      exact hhits other (by simp [hother])

theorem KeptByDrawing.drawRow? (h : P s) (x y row : Int) :
    ∃ drawn, s.drawRow? x y row = some drawn ∧ P drawn.1 := by
  obtain ⟨hits, hhits, hinside⟩ := (kept.complete h).rowHits? x y row
  refine ⟨s.flipAll hits, ?_, kept.flipAll h hinside⟩
  rw [Screen.drawRow?, hhits, Option.map_some]

/-- Every sprite can be drawn anywhere. -/
theorem KeptByDrawing.drawSprite? (x : Int) {rows : List UInt8} :
    ∀ {s : Screen} (y : Int), P s →
      ∃ drawn, s.drawSprite? x y rows = some drawn ∧ P drawn.1 := by
  induction rows with
  | nil => intro s y h; exact ⟨(s, false), rfl, h⟩
  | cons row rest ih =>
      intro s y h
      obtain ⟨here, hhere, hkept⟩ := kept.drawRow? h x y row.toNat
      obtain ⟨below, hbelow, hdone⟩ := ih (y + 1) hkept
      refine ⟨(below.1, here.2 || below.2), ?_, hdone⟩
      simp [Screen.drawSprite?, hhere, hbelow]

end

/-! ### Places -/

variable {index other : Int}

/-- The place of the pixel with an index. -/
def placeOf (s : Screen) (index : Int) : Point :=
  ⟨Int.fmod index s.width, Int.fdiv index s.width⟩

/-- A place in the picture, without any wrapping. -/
def Contains (s : Screen) (place : Point) : Prop :=
  0 ≤ place.x ∧ place.x < s.width ∧ 0 ≤ place.y ∧ place.y < s.height

theorem placeOf_injective (h : s.placeOf index = s.placeOf other) : index = other := by
  have hindex := Int.mul_fdiv_add_fmod index s.width
  have hother := Int.mul_fdiv_add_fmod other s.width
  rw [placeOf, placeOf, Point.mk.injEq] at h
  obtain ⟨hcolumn, hrow⟩ := h
  rw [← hindex, ← hother, hcolumn, hrow]

/-- The changes by place are the pending ones by index. -/
theorem mem_changes_iff {change : Point × Int} :
    change ∈ s.changes ↔
      ∃ index on, s.pending[index]? = some on ∧ change = (s.placeOf index, colour on) := by
  rw [changes, List.mem_map]
  constructor
  · rintro ⟨⟨index, on⟩, hpending, rfl⟩
    exact ⟨index, on, Std.TreeMap.mem_toList_iff_getElem?_eq_some.1 hpending, rfl⟩
  · rintro ⟨index, on, hpending, rfl⟩
    exact ⟨(index, on), Std.TreeMap.mem_toList_iff_getElem?_eq_some.2 hpending, rfl⟩

/-- No place is changed twice. -/
theorem nodup_changes (s : Screen) : (s.changes.map Prod.fst).Nodup := by
  have hplaces : s.changes.map Prod.fst = (s.pending.toList.map Prod.fst).map s.placeOf := by
    rw [changes, List.map_map, List.map_map]
    rfl
  rw [hplaces, Std.TreeMap.map_fst_toList_eq_keys]
  refine List.Nodup.map (fun index other => placeOf_injective) ?_
  exact Std.TreeMap.nodup_keys

theorem Complete.contains_placeOf (h : s.Complete) (hindex : s.IsIndex index) :
    s.Contains (s.placeOf index) := by
  have hw := h.width_pos
  have hsplit := Int.mul_fdiv_add_fmod index s.width
  have hcolumn := Int.fmod_nonneg_of_pos index hw
  have hcolumn' := Int.fmod_lt_of_pos index hw
  obtain ⟨hlow, hhigh⟩ := hindex
  refine ⟨hcolumn, hcolumn', ?_, ?_⟩
  · show 0 ≤ Int.fdiv index s.width
    by_contra hrow
    nlinarith
  · show Int.fdiv index s.width < s.height
    by_contra hrow
    nlinarith

/-- Every place of the picture is that of a pixel, and drawing there means that pixel. -/
theorem Complete.target?_of_contains (h : s.Complete) {x y : Int} (hplace : s.Contains ⟨x, y⟩) :
    ∃ index, s.IsIndex index ∧ s.placeOf index = ⟨x, y⟩ ∧ s.target? x y = some index := by
  obtain ⟨hleft, hright, htop, hbottom⟩ : 0 ≤ x ∧ x < s.width ∧ 0 ≤ y ∧ y < s.height := hplace
  obtain ⟨index, htarget, hindex⟩ := h.target? x y
  refine ⟨index, hindex, ?_, htarget⟩
  have hw := h.width_pos
  have hplaced : index = x + y * s.width := by
    rw [Screen.target?, index?, if_neg (by omega)] at htarget
    obtain ⟨hwrapped, -⟩ := Option.filter_eq_some_iff.1 htarget
    rw [Option.some_inj, Int.fmod_eq_of_lt htop hbottom, Int.fmod_eq_of_lt hleft hright] at hwrapped
    omega
  rw [placeOf, hplaced, Int.add_mul_fmod_self_right, Int.add_mul_fdiv_right _ _ (by omega),
    Int.fmod_eq_of_lt hleft hright, Int.fdiv_eq_zero_of_lt hleft hright, Int.zero_add]

end ChipEight.Screen
