/-
Which changes are handed over.

What is pending can be told from the history of a picture: the pixels that were touched since the
changes were taken out last, where drawing touches the pixels that it hits, however often and
whatever comes of it, and clearing and invalidating touch all of them.  A picture begins its
history by being cleared, and so the first changes that are taken out are the whole picture.

`Tracks` ties a picture to its history in this way, together with a recording that was handed
every change so far.  That recording knows the colour of each pixel that was not touched since,
because nothing but a touch can change a pixel.  When the changes are taken out they go to the
recording, and then it knows all colours.
-/
import ChipEight.Proofs.Mirror
import ChipEight.Proofs.Parity

namespace ChipEight

namespace Screen

/-! ### Reading a history -/

/-- An operation hits a place of the picture, or it clears or invalidates all places. -/
def Operation.Touches (width height : Int) (place : Point) (operation : Operation) : Prop :=
  operation = .clear ∨ operation = .invalidate ∨ 0 < operation.hits width height place

instance (width height : Int) (place : Point) (operation : Operation) :
    Decidable (operation.Touches width height place) :=
  inferInstanceAs (Decidable (_ ∨ _ ∨ _))

/-- A place was touched since the changes were taken out last, or else since the picture was
made.  A picture is cleared as it is made. -/
def TouchedSince (width height : Int) (history : List Operation) (place : Point) : Prop :=
  ∃ operation ∈ (.clear :: history).rtakeWhile (· ≠ .handOver),
    operation.Touches width height place

instance (width height : Int) (history : List Operation) (place : Point) :
    Decidable (TouchedSince width height history place) :=
  inferInstanceAs (Decidable (∃ operation ∈ _, _))

variable {width height : Int} {s : Screen} {history : List Operation} {operation : Operation}
  {place : Point}

theorem touchedSince_nil : TouchedSince width height [] place :=
  ⟨.clear, by simp [List.rtakeWhile], Or.inl rfl⟩

theorem not_touchedSince_handOver : ¬ TouchedSince width height (history ++ [.handOver]) place := by
  rw [TouchedSince, ← List.cons_append, List.rtakeWhile_concat_neg _ _ _ (by simp)]
  simp

theorem touchedSince_concat (h : operation ≠ .handOver) :
    TouchedSince width height (history ++ [operation]) place ↔
      TouchedSince width height history place ∨ operation.Touches width height place := by
  rw [TouchedSince, ← List.cons_append, List.rtakeWhile_concat_pos _ _ _ (by simpa using h)]
  simp only [List.mem_append, List.mem_singleton, or_and_right, exists_or, exists_eq_left]
  rfl

/-! ### Watching a picture -/

/-- The picture after an operation, and the display that watches it: what is taken out of the
picture goes to the display. -/
def watch? (s : Screen) (d : Display) : Operation → Option (Screen × Display)
  | .handOver => some (s.handOver.1, (d.draw s.handOver.2).1)
  | operation => (s.operate? operation).map fun after => (after, d)

/-- A picture and its display after some operations, one after the other. -/
def watched? (s : Screen) (d : Display) (operations : List Operation) :
    Option (Screen × Display) :=
  operations.foldlM (fun shown operation => shown.1.watch? shown.2 operation) (s, d)

theorem watch?_of_ne (h : operation ≠ .handOver) {after : Screen} {d : Display}
    (hoperate : s.operate? operation = some after) : s.watch? d operation = some (after, d) := by
  rw [watch?, hoperate, Option.map_some]
  exact h

end Screen

namespace Recording

open Screen

/-- What is pending are the places that were touched since the changes were taken out last.  The
recording knows the colours of all others, and it knows no place that is not in the picture. -/
structure Tracks (width height : Int) (history : List Operation) (s : Screen) (r : Recording) :
    Prop where
  complete : s.Complete
  width_eq : s.width = width
  height_eq : s.height = height
  pending : ∀ index on, s.pending[index]? = some on ↔
    s.IsIndex index ∧ TouchedSince width height history (s.placeOf index) ∧ s.lit index = on
  seen : ∀ index, s.IsIndex index → ¬ TouchedSince width height history (s.placeOf index) →
    r.pixels[s.placeOf index]? = some (colour (s.lit index))
  beyond : ∀ place, ¬ s.Contains place → r.pixels[place]? = none

variable {width height : Int} {s : Screen} {r : Recording} {history : List Operation}
  {operation : Operation} {place : Point}

theorem Tracks.coherent (h : r.Tracks width height history s) : s.Coherent width height where
  width_pos := by rw [← h.width_eq]; exact h.complete.width_pos
  height_pos := by rw [← h.height_eq]; exact h.complete.height_pos
  width_eq := h.width_eq
  height_eq := h.height_eq
  size := by rw [h.complete.size, h.width_eq, h.height_eq]
  pending := by
    intro index on hon
    obtain ⟨⟨hlow, hhigh⟩, -, hlit⟩ := (h.pending index on).1 hon
    rw [h.width_eq, h.height_eq] at hhigh
    exact ⟨hlow, hhigh, hlit⟩

/-- A picture that is all pending is tracked if all of it was touched. -/
theorem tracks_invalidate (hcomplete : s.Complete) (hwidth : s.width = width)
    (hheight : s.height = height) (htouched : ∀ place, TouchedSince width height history place)
    (hbeyond : ∀ place, ¬ s.Contains place → r.pixels[place]? = none) :
    r.Tracks width height history s.invalidate where
  complete := ⟨hcomplete.width_pos, hcomplete.height_pos, hcomplete.size⟩
  width_eq := hwidth
  height_eq := hheight
  pending := by
    intro index on
    show (allPending s.pixels)[index]? = some on ↔ s.IsIndex index ∧ _ ∧ s.lit index = on
    have hpixel : s.IsIndex index ↔ 0 ≤ index ∧ index < s.pixels.size := by
      rw [hcomplete.size]
      rfl
    rw [getElem?_allPending, hpixel]
    by_cases hinside : 0 ≤ index ∧ index < s.pixels.size
    · rw [if_pos hinside, Option.some_inj, ← lit_of_nonneg hinside.1]
      simp only [hinside, htouched, true_and]
    · simp [hinside]
  seen := by
    intro index _ huntouched
    exact absurd (htouched _) huntouched
  beyond := hbeyond

/-- Flipping the pixels that an operation touches makes them pending. -/
theorem Tracks.flipAll (h : r.Tracks width height history s) {hits : List Int}
    (hinside : ∀ index ∈ hits, s.IsIndex index) (hother : operation ≠ .handOver)
    (htouches : ∀ place, s.Contains place →
      (s.indexOf place ∈ hits ↔ operation.Touches width height place)) :
    r.Tracks width height (history ++ [operation]) (s.flipAll hits).1 := by
  have hmember : ∀ index, s.IsIndex index →
      (index ∈ hits ↔ operation.Touches width height (s.placeOf index)) := by
    intro index hindex
    have htouch := htouches (s.placeOf index) (h.complete.contains_placeOf hindex)
    rwa [indexOf_placeOf] at htouch
  refine ⟨h.complete.flipAll, by rw [flipAll_width, h.width_eq],
    by rw [flipAll_height, h.height_eq], ?_, ?_, ?_⟩
  · intro index on
    rw [h.complete.getElem?_pending_flipAll hinside, isIndex_flipAll, placeOf_flipAll,
      touchedSince_concat hother]
    by_cases hhit : index ∈ hits
    · have hindex := hinside index hhit
      simp [hhit, hindex, (hmember index hindex).1 hhit]
    · rw [if_neg hhit, h.pending]
      refine and_congr_right fun hindex => ?_
      have hmissed := mt (hmember index hindex).2 hhit
      rw [h.complete.lit_flipAll_of_not_mem hinside hindex.1 hhit]
      simp [hmissed]
  · intro index hindex huntouched
    rw [isIndex_flipAll] at hindex
    rw [placeOf_flipAll, touchedSince_concat hother, not_or] at huntouched
    have hmissed := mt (hmember index hindex).1 huntouched.2
    rw [placeOf_flipAll, h.complete.lit_flipAll_of_not_mem hinside hindex.1 hmissed]
    exact h.seen index hindex huntouched.1
  · intro place houtside
    rw [contains_flipAll] at houtside
    exact h.beyond place houtside

theorem tracks_blank (hw : 1 ≤ width) (hh : 1 ≤ height) :
    blank.Tracks width height [] (Screen.blank width height) := by
  have hcomplete : (Screen.blank width height).Complete := (coherent_blank hw hh).complete
  refine tracks_invalidate hcomplete rfl rfl ?_ ?_
  · intro place
    exact touchedSince_nil
  · intro place _
    exact Std.TreeMap.getElem?_emptyc

/-! ### Handing over -/

/-- A recording is called only if something changed. -/
theorem draw_recording (r : Recording) (paint : Paint) :
    ∃ r' : Recording, (Display.recording r).draw paint = (.recording r', []) ∧
      r'.pixels = (r.draw paint).pixels ∧
      r'.frames = if paint = [] then r.frames else r.frames + 1 := by
  by_cases hnone : paint = []
  · refine ⟨r, ?_, ?_, by rw [if_pos hnone]⟩
    · rw [Display.draw, if_pos (by simpa using hnone)]
    · rw [hnone]
      rfl
  · refine ⟨r.draw paint, ?_, rfl, by rw [if_neg hnone]; rfl⟩
    rw [Display.draw, if_neg (by simpa using hnone)]

/-- A recording that is handed the changes knows all colours. -/
theorem Tracks.getElem?_draw (h : r.Tracks width height history s) {index : Int}
    (hindex : s.IsIndex index) :
    (r.draw s.changes).pixels[s.placeOf index]? = some (colour (s.lit index)) := by
  refine getElem?_draw_changes h.coherent ?_
  intro hpending
  refine h.seen index hindex ?_
  intro htouched
  rw [(h.pending index _).2 ⟨hindex, htouched, rfl⟩] at hpending
  cases hpending

theorem Tracks.handOver (h : r.Tracks width height history s) {r' : Recording}
    (hpixels : r'.pixels = (r.draw s.changes).pixels) :
    r'.Tracks width height (history ++ [.handOver]) s.handOver.1 where
  complete := ⟨h.complete.width_pos, h.complete.height_pos, h.complete.size⟩
  width_eq := h.width_eq
  height_eq := h.height_eq
  pending := by
    intro index on
    rw [Screen.handOver, Std.TreeMap.getElem?_emptyc]
    simp [not_touchedSince_handOver]
  seen := by
    intro index hindex _
    rw [hpixels]
    exact h.getElem?_draw hindex
  beyond := by
    intro place houtside
    rw [hpixels, getElem?_draw_changes_beyond h.coherent houtside]
    exact h.beyond place houtside

/-! ### Runs -/

/-- Every operation can be carried out, and the recording keeps track of it. -/
theorem Tracks.watch? (h : r.Tracks width height history s) (operation : Operation) :
    ∃ after r', s.watch? (.recording r) operation = some (after, .recording r') ∧
      r'.Tracks width height (history ++ [operation]) after := by
  cases operation with
  | toggle x y =>
      refine ⟨_, r, watch?_of_ne (by simp) (h.complete.toggle?_eq x y),
        h.flipAll ?_ (by simp) ?_⟩
      · simpa using h.complete.isIndex_indexOf (h.complete.contains_wrapped x y)
      · intro place hplace
        rw [← List.count_pos_iff, h.complete.count_toggled hplace, h.width_eq, h.height_eq]
        simp [Operation.Touches]
  | row x y bits =>
      have hdrawn : s.operate? (.row x y bits) = some (s.flipAll (s.rowFlips x y bits)).1 := by
        rw [operate?, h.complete.drawRow?_eq, Option.map_some]
      refine ⟨_, r, watch?_of_ne (by simp) hdrawn,
        h.flipAll h.complete.isIndex_rowFlips (by simp) ?_⟩
      intro place hplace
      rw [← List.count_pos_iff, h.complete.count_rowFlips hplace, h.width_eq, h.height_eq]
      simp [Operation.Touches]
  | clear =>
      refine ⟨s.cleared, r, watch?_of_ne (by simp) rfl, ?_⟩
      have hcleared := h.coherent.cleared
      refine tracks_invalidate (s := s.cleared) hcleared.complete hcleared.width_eq
        hcleared.height_eq ?_ h.beyond
      intro place
      exact (touchedSince_concat (by simp)).2 (Or.inr (Or.inl rfl))
  | invalidate =>
      refine ⟨s.invalidate, r, watch?_of_ne (by simp) rfl, ?_⟩
      refine tracks_invalidate h.complete h.width_eq h.height_eq ?_ h.beyond
      intro place
      exact (touchedSince_concat (by simp)).2 (Or.inr (Or.inr (Or.inl rfl)))
  | handOver =>
      obtain ⟨r', hdraw, hpixels, -⟩ := draw_recording r s.changes
      refine ⟨s.handOver.1, r', ?_, h.handOver hpixels⟩
      show some (s.handOver.1, ((Display.recording r).draw s.changes).1) = _
      rw [hdraw]

theorem Tracks.watched? (operations : List Operation) :
    ∀ {s : Screen} {r : Recording} {history : List Operation},
      r.Tracks width height history s →
      ∃ after r', s.watched? (.recording r) operations = some (after, .recording r') ∧
        r'.Tracks width height (history ++ operations) after := by
  induction operations with
  | nil =>
      intro s r history h
      exact ⟨s, r, rfl, by rwa [List.append_nil]⟩
  | cons operation rest ih =>
      intro s r history h
      obtain ⟨between, r', hwatch, hbetween⟩ := h.watch? operation
      obtain ⟨after, r'', hrest, hafter⟩ := ih hbetween
      rw [List.append_assoc, List.singleton_append] at hafter
      refine ⟨after, r'', ?_, hafter⟩
      rw [Screen.watched?, List.foldlM_cons, hwatch]
      exact hrest

/-- The changes of a picture are the places that were touched, with their colours. -/
theorem Tracks.mem_changes_iff (h : r.Tracks width height history s) {place : Point}
    {number : Int} :
    (place, number) ∈ s.changes ↔
      s.Contains place ∧ TouchedSince width height history place ∧
        (s.pixel? place.x place.y).map colour = some number := by
  rw [Screen.mem_changes_iff]
  constructor
  · rintro ⟨index, on, hpending, hchange⟩
    cases hchange
    obtain ⟨hindex, htouched, hlit⟩ := (h.pending index on).1 hpending
    have hplace := h.complete.contains_placeOf hindex
    refine ⟨hplace, htouched, ?_⟩
    rw [h.complete.pixel?_eq hplace, indexOf_placeOf, hlit, Option.map_some]
  · rintro ⟨hplace, htouched, hnumber⟩
    rw [h.complete.pixel?_eq hplace, Option.map_some, Option.some_inj] at hnumber
    have hsame := h.complete.placeOf_indexOf hplace
    refine ⟨s.indexOf place, s.lit (s.indexOf place), ?_, by rw [hsame, hnumber]⟩
    rw [h.pending, hsame]
    exact ⟨h.complete.isIndex_indexOf hplace, htouched, rfl⟩

/-- **The changes are what was touched, and a display that gets all of them shows the picture.**
Whatever is done to a picture, the changes taken out of it are those of the places that were
touched since the changes were taken out last, each once and with the colour that the place has
now.  Nothing is left to be taken out.  A recording that is handed all changes from the first on
has, once it was handed these, the colours of the whole picture and nothing else; and it is called
only if there are changes. -/
theorem changes_exact (hw : 1 ≤ width) (hh : 1 ≤ height) (history : List Operation) :
    ∃ s r, (Screen.blank width height).watched? (.recording blank) history =
        some (s, .recording r) ∧
      (∀ place number, (place, number) ∈ s.handOver.2 ↔
        (0 ≤ place.x ∧ place.x < width ∧ 0 ≤ place.y ∧ place.y < height) ∧
          TouchedSince width height history place ∧
          (s.pixel? place.x place.y).map colour = some number) ∧
      (s.handOver.2.map Prod.fst).Nodup ∧
      s.handOver.1.handOver.2 = [] ∧
      ∃ r', (Display.recording r).draw s.handOver.2 = (.recording r', []) ∧
        r'.frames = (if s.handOver.2 = [] then r.frames else r.frames + 1) ∧
        ∀ place : Point, r'.pixels[place]? =
          if 0 ≤ place.x ∧ place.x < width ∧ 0 ≤ place.y ∧ place.y < height then
            (s.handOver.1.pixel? place.x place.y).map colour
          else none := by
  obtain ⟨s, r, hrun, h⟩ := (tracks_blank hw hh).watched? history
  rw [List.nil_append] at h
  have hinside : ∀ place, s.Contains place ↔
      0 ≤ place.x ∧ place.x < width ∧ 0 ≤ place.y ∧ place.y < height := by
    intro place
    rw [Contains, h.width_eq, h.height_eq]
  obtain ⟨r', hdraw, hpixels, hframes⟩ := draw_recording r s.handOver.2
  refine ⟨s, r, hrun, ?_, s.nodup_changes, rfl, r', hdraw, hframes, ?_⟩
  · intro place number
    rw [← hinside]
    exact h.mem_changes_iff
  · intro place
    rw [hpixels]
    by_cases hplace : s.Contains place
    · have hshown := h.getElem?_draw (h.complete.isIndex_indexOf hplace)
      rw [h.complete.placeOf_indexOf hplace] at hshown
      rw [if_pos ((hinside place).1 hplace)]
      show (r.draw s.changes).pixels[place]? = (s.pixel? place.x place.y).map colour
      rw [hshown, h.complete.pixel?_eq hplace, Option.map_some]
    · rw [if_neg (mt (hinside place).2 hplace)]
      show (r.draw s.changes).pixels[place]? = none
      rw [getElem?_draw_changes_beyond h.coherent hplace, h.beyond place hplace]

/-- A pixel is turned on and off again, and another one is drawn, on a picture of three columns
that was shown before. -/
def drawnAfterShowing : List Operation :=
  [.handOver, .toggle (-2) 3, .row 5 0 0x80, .toggle 1 1]

/-- Of the first pixel it is told that it is off, of the second one that it is on, and of the others
nothing.  The display knows all three. -/
theorem drawnAfterShowing_changes :
    ∃ s r, (Screen.blank 3 2).watched? (.recording blank) drawnAfterShowing =
        some (s, .recording r) ∧
      (⟨1, 1⟩, 0) ∈ s.handOver.2 ∧ (⟨2, 0⟩, 1) ∈ s.handOver.2 ∧
      (∀ number, (⟨0, 0⟩, number) ∉ s.handOver.2) ∧
      ∃ r', (Display.recording r).draw s.handOver.2 = (.recording r', []) ∧
        r'.pixels[(⟨1, 1⟩ : Point)]? = some 0 ∧ r'.pixels[(⟨2, 0⟩ : Point)]? = some 1 ∧
        r'.pixels[(⟨0, 2⟩ : Point)]? = none := by
  have hwidth : (1 : Int) ≤ 3 := by decide
  have hheight : (1 : Int) ≤ 2 := by decide
  obtain ⟨s, r, hrun, hchanges, -, -, r', hdraw, -, hshown⟩ :=
    changes_exact hwidth hheight drawnAfterShowing
  -- The pixels are looked up in the picture that the operations come to.
  have hpixel : ∀ x y, s.pixel? x y = ((Screen.blank 3 2).watched? (.recording blank)
      drawnAfterShowing).bind fun shown => shown.1.pixel? x y := by
    intro x y
    rw [hrun, Option.bind_some]
  have hoff : s.pixel? 1 1 = some false := (hpixel 1 1).trans (by decide)
  have hon : s.pixel? 2 0 = some true := (hpixel 2 0).trans (by decide)
  refine ⟨s, r, hrun, ?_, ?_, ?_, r', hdraw, ?_, ?_, ?_⟩
  · exact (hchanges ⟨1, 1⟩ 0).2 ⟨by decide, by decide, by rw [hoff]; rfl⟩
  · exact (hchanges ⟨2, 0⟩ 1).2 ⟨by decide, by decide, by rw [hon]; rfl⟩
  · intro number hmember
    exact absurd ((hchanges ⟨0, 0⟩ number).1 hmember).2.1 (by decide)
  · rw [hshown, if_pos (by decide)]
    exact congrArg (Option.map colour) hoff
  · rw [hshown, if_pos (by decide)]
    exact congrArg (Option.map colour) hon
  · rw [hshown, if_neg (by decide)]

end Recording

end ChipEight
