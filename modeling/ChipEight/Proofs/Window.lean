/-
What the window shows.

A window does not remember what was painted: it sends calls to the host, and the host's window does.
`Canvas` is that window, and `carryOut` is all that is asked of the host: opening a window gives one
of the size that was asked for, showing whatever it likes; filling paints all of it; and a rectangle
is painted where it lies and nowhere else.  What is shown is what the calls come to when they are
carried out one after the other.  Each painting ends by showing what was painted, and so the two
are not told apart.

A pixel is painted as a square, and the squares of two places have nothing in common: a place of the
window lies in the square of just one, which division finds (`covers_square_iff`).  So the colour
of a place of the window is the colour that its pixel was given last, and a recording that was
handed the same knows the same colours.
-/
import ChipEight.Proofs.Changes

namespace ChipEight

/-! ### The host's window -/

/-- A window of the host: its size, and the colours of its places. -/
structure Canvas where
  width : Int
  height : Int
  colourAt : Point → Rgba

namespace Canvas

/-- A place lies in a rectangle. -/
def Covers (x y width height : Int) (place : Point) : Prop :=
  x ≤ place.x ∧ place.x < x + width ∧ y ≤ place.y ∧ place.y < y + height

instance (x y width height : Int) (place : Point) : Decidable (Covers x y width height place) :=
  inferInstanceAs (Decidable (_ ∧ _ ∧ _ ∧ _))

/-- The window with a rectangle in one colour. -/
def rect (c : Canvas) (colour : Rgba) (x y width height : Int) : Canvas :=
  { c with
    colourAt := fun place => if Covers x y width height place then colour else c.colourAt place }

/-- The window, if there is one, after a call.  One that was just opened may show anything. -/
def carryOut (fresh : Point → Rgba) : Option Canvas → DeviceCall → Option Canvas
  | _, .setMode width height _ _ => some ⟨width, height, fresh⟩
  | some c, .fill colour => some { c with colourAt := fun _ => colour }
  | some c, .rect colour x y width height => some (c.rect colour x y width height)
  | _, .closeDisplay => none
  | _, .finish => none
  | shown, _ => shown

/-- The window after some calls, one after the other. -/
def replay (fresh : Point → Rgba) (shown : Option Canvas) (calls : List DeviceCall) :
    Option Canvas :=
  calls.foldl (carryOut fresh) shown

theorem replay_append (fresh : Point → Rgba) (shown : Option Canvas)
    (calls later : List DeviceCall) :
    replay fresh shown (calls ++ later) = replay fresh (replay fresh shown calls) later :=
  List.foldl_append

end Canvas

/-- A call opens a window. -/
def DeviceCall.opensWindow : DeviceCall → Bool
  | .setMode _ _ _ _ => true
  | _ => false

/-! ### Last colours -/

namespace Paint

/-- The colour that a place is given last, if it is given one. -/
def lastColour (paint : Paint) (place : Point) : Option Int := paint.reverse.lookup place

/-- A window knows all colours. -/
def Known (paint : Paint) : Prop := ∀ change ∈ paint, change.2 = 0 ∨ change.2 = 1

instance (paint : Paint) : Decidable paint.Known :=
  inferInstanceAs (Decidable (∀ change ∈ paint, _))

variable {paint : Paint} {place : Point}

theorem lastColour_append (earlier later : Paint) (place : Point) :
    lastColour (earlier ++ later) place =
      (lastColour later place).or (lastColour earlier place) := by
  rw [lastColour, List.reverse_append, List.lookup_append]
  rfl

theorem lastColour_singleton (change : Point × Int) (place : Point) :
    lastColour [change] place = if change.1 = place then some change.2 else none := by
  rw [lastColour, List.reverse_singleton, List.lookup_cons, List.lookup_nil]
  by_cases hplace : place = change.1
  · rw [beq_iff_eq.2 hplace, if_pos hplace.symm]
  · rw [beq_eq_false_iff_ne.2 hplace, if_neg (Ne.symm hplace)]

/-- A recording has the last colours, and in other places those that it had before. -/
theorem getElem?_draw (r : Recording) (place : Point) :
    (r.draw paint).pixels[place]? = (lastColour paint place).or r.pixels[place]? := by
  induction paint using List.reverseRecOn with
  | nil => rfl
  | append_singleton earlier change ih =>
      rw [lastColour_append, lastColour_singleton, Recording.draw, List.foldl_append,
        List.foldl_cons, List.foldl_nil, Std.TreeMap.getElem?_insert]
      by_cases hplace : change.1 = place
      · rw [if_pos (by rw [hplace]; exact Std.ReflCmp.compare_self), if_pos hplace]
        rfl
      · rw [if_neg (by rw [Std.LawfulEqCmp.compare_eq_iff_eq]; exact hplace), if_neg hplace]
        exact ih

end Paint

/-! ### Squares -/

namespace Window

open Paint

variable {scale : Int} {place : Point} {paint earlier : Paint} {c : Canvas}

/-- The pixel that a place of the window belongs to. -/
def cellOf (scale : Int) (place : Point) : Point := ⟨place.x / scale, place.y / scale⟩

theorem ediv_eq_iff (hscale : 1 ≤ scale) (n q : Int) :
    n / scale = q ↔ q * scale ≤ n ∧ n < q * scale + scale := by
  have hlow : q ≤ n / scale ↔ q * scale ≤ n := Int.le_ediv_iff_mul_le (by omega)
  have hhigh : n / scale < q + 1 ↔ n < (q + 1) * scale := Int.ediv_lt_iff_lt_mul (by omega)
  rw [Int.add_mul, Int.one_mul] at hhigh
  omega

/-- A place of the window lies in the square of the pixel that it belongs to, and in no other. -/
theorem covers_square_iff (hscale : 1 ≤ scale) (cell : Point) :
    Canvas.Covers (cell.x * scale) (cell.y * scale) scale scale place ↔
      cell = cellOf scale place := by
  have hx := ediv_eq_iff hscale place.x cell.x
  have hy := ediv_eq_iff hscale place.y cell.y
  rw [eq_comm, cellOf, Point.mk.injEq, hx, hy, Canvas.Covers]
  omega

/-- The window has the size of the picture, and every place in it the colour that its pixel was
given last. -/
structure Shows (scale : Int) (paint : Paint) (c : Canvas) : Prop where
  width : c.width = Screen.standardWidth * scale
  height : c.height = Screen.standardHeight * scale
  colours : ∀ place, some (c.colourAt place) =
    palette? ((lastColour paint (cellOf scale place)).getD 0)

/-- The window after it was opened. -/
def opening (scale : Int) : Window := (standard scale).opened.1

theorem replay_opened (scale : Int) :
    ∃ c, (∀ fresh, Canvas.replay fresh none (standard scale).opened.2 = some c) ∧
      Shows scale [] c :=
  ⟨⟨_, _, fun _ => offColour⟩, fun _ => rfl, rfl, rfl, fun _ => rfl⟩

/-- A square gives its pixel a colour. -/
theorem Shows.square (h : Shows scale earlier c) (hscale : 1 ≤ scale) (cell : Point) {colour : Int}
    {rgba : Rgba} (hcolour : palette? colour = some rgba) :
    ∃ c', (∀ fresh,
        Canvas.carryOut fresh (some c) ((opening scale).square cell rgba) = some c') ∧
      Shows scale (earlier ++ [(cell, colour)]) c' := by
  refine ⟨_, fun _ => rfl, h.width, h.height, ?_⟩
  intro place
  rw [lastColour_append, lastColour_singleton]
  show some (if Canvas.Covers (cell.x * scale) (cell.y * scale) scale scale place then rgba
    else c.colourAt place) = _
  by_cases hcell : cell = cellOf scale place
  · rw [if_pos ((covers_square_iff hscale cell).2 hcell), if_pos hcell]
    exact hcolour.symm
  · rw [if_neg (mt (covers_square_iff hscale cell).1 hcell), if_neg hcell]
    exact h.colours place

theorem exists_palette {colour : Int} (h : colour = 0 ∨ colour = 1) :
    ∃ rgba, palette? colour = some rgba := by
  rcases h with rfl | rfl <;> exact ⟨_, rfl⟩

/-- A window that is open goes on showing what it is told by some calls. -/
structure Tells (scale : Int) (c : Canvas) (earlier paint : Paint) (calls : List DeviceCall) :
    Prop where
  replay : ∃ c', (∀ fresh, Canvas.replay fresh (some c) calls = some c') ∧
    Shows scale (earlier ++ paint) c'
  opens : calls.countP DeviceCall.opensWindow = 0

/-- The squares of known colours are all painted. -/
theorem Shows.squares (hscale : 1 ≤ scale) :
    ∀ {paint earlier : Paint} {c : Canvas}, Shows scale earlier c → Known paint →
      ∃ calls, (opening scale).squares paint = (calls, true) ∧
        Tells scale c earlier paint calls := by
  intro paint
  induction paint with
  | nil =>
      intro earlier c h _
      exact ⟨[], rfl, ⟨c, fun _ => rfl, by rwa [List.append_nil]⟩, rfl⟩
  | cons change rest ih =>
      intro earlier c h hknown
      obtain ⟨cell, colour⟩ := change
      obtain ⟨rgba, hcolour⟩ := exists_palette (hknown (cell, colour) (List.mem_cons_self ..))
      obtain ⟨between, hsquare, hbetween⟩ := h.square hscale cell hcolour
      obtain ⟨calls, hsquares, ⟨c', hreplay, hshows⟩, hopens⟩ :=
        ih hbetween fun other hother => hknown other (List.mem_cons_of_mem _ hother)
      rw [List.append_assoc, List.singleton_append] at hshows
      refine ⟨(opening scale).square cell rgba :: calls, ?_, ⟨c', ?_, hshows⟩, hopens⟩
      · simp only [Window.squares, hcolour, hsquares]
      · intro fresh
        rw [Canvas.replay, List.foldl_cons, hsquare]
        exact hreplay fresh

/-! ### One painting after the other -/

/-- The window after it painted some things, one after the other, and the calls that this took, if
it knew all colours. -/
def drawAll? (w : Window) : List Paint → Option (Window × List DeviceCall)
  | [] => some (w, [])
  | paint :: rest =>
    match w.draw paint with
    | (_, _, false) => none
    | (w, calls, true) => (w.drawAll? rest).map fun (w, later) => (w, calls ++ later)

theorem draw_opening (scale : Int) (paint : Paint) :
    (opening scale).draw paint =
      (opening scale,
        ((opening scale).squares paint).1 ++
          (if ((opening scale).squares paint).2 then [.flip] else []),
        ((opening scale).squares paint).2) := rfl

/-- A window that is open stays open, and paints. -/
theorem Shows.draw (h : Shows scale earlier c) (hscale : 1 ≤ scale) (hknown : Known paint) :
    ∃ calls, (opening scale).draw paint = (opening scale, calls, true) ∧
      Tells scale c earlier paint calls := by
  obtain ⟨calls, hsquares, ⟨c', hreplay, hshows⟩, hopens⟩ := h.squares hscale hknown
  refine ⟨calls ++ [.flip], ?_, ⟨c', ?_, hshows⟩, ?_⟩
  · rw [draw_opening, hsquares]
    rfl
  · intro fresh
    rw [Canvas.replay_append, hreplay]
    rfl
  · rw [List.countP_append, hopens]
    rfl

theorem Shows.drawAll (hscale : 1 ≤ scale) :
    ∀ {paints : List Paint} {earlier : Paint} {c : Canvas}, Shows scale earlier c →
      (∀ paint ∈ paints, Known paint) →
      ∃ calls, (opening scale).drawAll? paints = some (opening scale, calls) ∧
        Tells scale c earlier paints.flatten calls := by
  intro paints
  induction paints with
  | nil =>
      intro earlier c h _
      exact ⟨[], rfl, ⟨c, fun _ => rfl, by rwa [List.flatten_nil, List.append_nil]⟩, rfl⟩
  | cons paint rest ih =>
      intro earlier c h hknown
      obtain ⟨calls, hdraw, ⟨between, hreplay, hbetween⟩, hopens⟩ :=
        h.draw hscale (hknown paint (List.mem_cons_self ..))
      obtain ⟨later, hrest, ⟨c', hreplay', hshows⟩, hopens'⟩ :=
        ih hbetween fun other hother => hknown other (List.mem_cons_of_mem _ hother)
      rw [List.append_assoc, ← List.flatten_cons] at hshows
      refine ⟨calls ++ later, ?_, ⟨c', ?_, hshows⟩, ?_⟩
      · simp only [drawAll?, hdraw, hrest, Option.map_some]
      · intro fresh
        rw [Canvas.replay_append, hreplay, hreplay']
      · rw [List.countP_append, hopens, hopens']

/-- A closed window opens before it paints. -/
theorem draw_standard (scale : Int) (paint : Paint) :
    (standard scale).draw paint =
      (opening scale, (standard scale).opened.2 ++ ((opening scale).draw paint).2.1,
        ((opening scale).draw paint).2.2) := by
  rw [draw_opening, ← List.append_assoc]
  rfl

/-- The first thing that is painted opens the window, and nothing opens another one. -/
theorem drawAll_standard (hscale : 1 ≤ scale) {rest : List Paint} (hknown : Known paint)
    (hrest : ∀ other ∈ rest, Known other) :
    ∃ w calls c, (standard scale).drawAll? (paint :: rest) = some (w, calls) ∧
      (∀ fresh, Canvas.replay fresh none calls = some c) ∧
      Shows scale (paint :: rest).flatten c ∧ calls.countP DeviceCall.opensWindow = 1 := by
  obtain ⟨blank, hopened, hblank⟩ := replay_opened scale
  obtain ⟨calls, hdraw, ⟨between, hreplay, hbetween⟩, hopens⟩ := hblank.draw hscale hknown
  obtain ⟨later, hlater, ⟨c, hreplay', hshows⟩, hopens'⟩ := hbetween.drawAll hscale hrest
  rw [List.nil_append, ← List.flatten_cons] at hshows
  refine ⟨opening scale, (standard scale).opened.2 ++ calls ++ later, c, ?_, ?_, hshows, ?_⟩
  · simp only [drawAll?, draw_standard, hdraw, hlater, Option.map_some]
  · intro fresh
    rw [Canvas.replay_append, Canvas.replay_append, hopened, hreplay, hreplay']
  · rw [List.countP_append, List.countP_append, hopens, hopens']
    rfl

end Window

/-! ### What a picture hands over -/

namespace Screen

/-- What an operation hands to a display, if there is anything. -/
def handedBy (s : Screen) : Operation → List Paint
  | .handOver => if s.changes.isEmpty then [] else [s.changes]
  | _ => []

/-- The picture after some operations, one after the other, and what they hand to a display. -/
def handed? (s : Screen) : List Operation → Option (Screen × List Paint)
  | [] => some (s, [])
  | operation :: rest => do
    let between ← s.operate? operation
    let (after, later) ← between.handed? rest
    return (after, s.handedBy operation ++ later)

variable {s after : Screen} {history : List Operation} {operation : Operation}

theorem known_changes (s : Screen) : Paint.Known s.changes := by
  intro change hchange
  obtain ⟨index, on, -, rfl⟩ := mem_changes_iff.1 hchange
  cases on with
  | true => exact Or.inr rfl
  | false => exact Or.inl rfl

theorem known_handedBy : ∀ paint ∈ s.handedBy operation, Paint.Known paint := by
  intro paint hpaint
  cases operation with
  | handOver =>
      rw [handedBy] at hpaint
      split at hpaint
      · cases hpaint
      · rw [List.mem_singleton.1 hpaint]
        exact s.known_changes
  | _ => cases hpaint

/-- A recording that watches a picture paints what it is handed. -/
theorem watch?_recording {r r' : Recording}
    (h : s.watch? (.recording r) operation = some (after, .recording r')) :
    s.operate? operation = some after ∧ r' = (s.handedBy operation).foldl Recording.draw r := by
  by_cases hhandOver : operation = .handOver
  · subst hhandOver
    obtain ⟨hafter, hdisplay⟩ := Prod.mk.inj (Option.some_inj.1 h)
    refine ⟨congrArg some hafter, ?_⟩
    have hhanded : s.handOver.2 = s.changes := rfl
    rw [Display.draw, hhanded] at hdisplay
    rw [handedBy]
    split at hdisplay
    · rename_i hnone
      cases hdisplay
      rw [if_pos hnone]
      rfl
    · rename_i hsome
      cases hdisplay
      rw [if_neg hsome]
      rfl
  · have hnothing : s.handedBy operation = [] := by
      cases operation <;> first | rfl | exact absurd rfl hhandOver
    have hmap : s.watch? (.recording r) operation =
        (s.operate? operation).map fun between => (between, .recording r) := by
      rw [watch?]
      exact hhandOver
    rw [hmap] at h
    obtain ⟨between, hoperate, hsame⟩ := Option.map_eq_some_iff.1 h
    cases hsame
    rw [hnothing]
    exact ⟨hoperate, rfl⟩

end Screen

namespace Recording

open Screen

variable {width height : Int} {s : Screen} {r : Recording} {history : List Operation}

/-- What a picture hands over keeps track of it. -/
theorem Tracks.handed? (operations : List Operation) :
    ∀ {s : Screen} {r : Recording} {history : List Operation},
      r.Tracks width height history s →
      ∃ after paints, s.handed? operations = some (after, paints) ∧
        (∀ paint ∈ paints, Paint.Known paint) ∧
        (paints.foldl Recording.draw r).Tracks width height (history ++ operations) after := by
  induction operations with
  | nil =>
      intro s r history h
      exact ⟨s, [], rfl, by simp, by rwa [List.append_nil]⟩
  | cons operation rest ih =>
      intro s r history h
      obtain ⟨between, r', hwatch, hbetween⟩ := h.watch? operation
      obtain ⟨hoperate, rfl⟩ := watch?_recording hwatch
      obtain ⟨after, later, hrest, hknown, hafter⟩ := ih hbetween
      rw [List.append_assoc, List.singleton_append, ← List.foldl_append] at hafter
      refine ⟨after, s.handedBy operation ++ later, ?_, ?_, hafter⟩
      · simp only [Screen.handed?, hoperate, hrest, Option.bind_eq_bind, Option.bind_some]
        rfl
      · intro paint hpaint
        rcases List.mem_append.1 hpaint with hhere | hlater
        · exact known_handedBy paint hhere
        · exact hknown paint hlater

end Recording

/-- A recording that was handed some things one after the other has the last colours. -/
theorem Paint.getElem?_foldl_draw (paints : List Paint) (place : Point) :
    (paints.foldl Recording.draw .blank).pixels[place]? = lastColour paints.flatten place := by
  induction paints using List.reverseRecOn with
  | nil => exact Std.TreeMap.getElem?_emptyc
  | append_singleton paints paint ih =>
      rw [List.foldl_append, List.foldl_cons, List.foldl_nil, getElem?_draw, ih,
        List.flatten_append, List.flatten_singleton, lastColour_append]

/-- **The window is the recording, scaled.**  Whatever is painted on a closed window, one thing
after the other and in the two colours that there are, is painted to its end, and the first painting
opens the window, once and for all.  It is as large as the scaled picture, and whatever it showed
when it was opened, every place in it has the colour that its pixel was given last, or that of a
pixel that is off where none was given: the colour that a recording has that was handed the same.
What a picture hands over in the course of its history is of this kind, and when it has just been
handed over, the last colours are those of the picture. -/
theorem window_is_scaled_recording (scale : Int) (hscale : 1 ≤ scale) :
    (∀ paints : List Paint, (∀ paint ∈ paints, paint.Known) →
      ∃ w calls, (Window.standard scale).drawAll? paints = some (w, calls) ∧
        calls.countP DeviceCall.opensWindow = (if paints = [] then 0 else 1) ∧
        (paints = [] → calls = []) ∧
        (paints ≠ [] → ∃ c : Canvas, (∀ fresh, Canvas.replay fresh none calls = some c) ∧
          c.width = 64 * scale ∧ c.height = 32 * scale ∧
          ∀ X Y : Int, 0 ≤ X → X < 64 * scale → 0 ≤ Y → Y < 32 * scale →
            let last := Paint.lastColour paints.flatten ⟨X / scale, Y / scale⟩
            some (c.colourAt ⟨X, Y⟩) = Window.palette? (last.getD 0) ∧
            (paints.foldl Recording.draw .blank).pixels[(⟨X / scale, Y / scale⟩ : Point)]? =
              last)) ∧
    ∀ history : List Screen.Operation,
      ∃ s paints, Screen.standard.handed? history = some (s, paints) ∧
        (∀ paint ∈ paints, paint.Known) ∧
        ∀ earlier, history = earlier ++ [.handOver] →
          ∀ x y : Int, 0 ≤ x → x < 64 → 0 ≤ y → y < 32 →
            Paint.lastColour paints.flatten ⟨x, y⟩ = (s.pixel? x y).map Screen.colour := by
  refine ⟨?_, ?_⟩
  · intro paints hknown
    cases paints with
    | nil => exact ⟨_, [], rfl, rfl, fun _ => rfl, fun hnone => absurd rfl hnone⟩
    | cons paint rest =>
        obtain ⟨w, calls, c, hdraw, hreplay, hshows, hopens⟩ :=
          Window.drawAll_standard hscale (hknown paint (List.mem_cons_self ..))
            fun other hother => hknown other (List.mem_cons_of_mem _ hother)
        refine ⟨w, calls, hdraw, ?_, fun hnone => ?_, fun _ => ?_⟩
        · rw [hopens, if_neg (List.cons_ne_nil _ _)]
        · cases hnone
        · refine ⟨c, hreplay, hshows.width, hshows.height, ?_⟩
          intro X Y _ _ _ _ last
          exact ⟨hshows.colours ⟨X, Y⟩, Paint.getElem?_foldl_draw _ _⟩
  · intro history
    have htracks : Recording.blank.Tracks 64 32 [] .standard :=
      Recording.tracks_blank (by decide) (by decide)
    obtain ⟨s, paints, hhanded, hknown, hafter⟩ := htracks.handed? history
    refine ⟨s, paints, hhanded, hknown, ?_⟩
    rintro earlier rfl x y hleft hright htop hbottom
    have hplace : s.Contains ⟨x, y⟩ := by
      rw [Screen.Contains, hafter.width_eq, hafter.height_eq]
      exact ⟨hleft, hright, htop, hbottom⟩
    have hshown := hafter.seen (s.indexOf ⟨x, y⟩) (hafter.complete.isIndex_indexOf hplace)
      Screen.not_touchedSince_handOver
    rw [hafter.complete.placeOf_indexOf hplace, Paint.getElem?_foldl_draw] at hshown
    have hpixel : s.pixel? x y = some (s.lit (s.indexOf ⟨x, y⟩)) :=
      hafter.complete.pixel?_eq hplace
    rw [hshown, hpixel, Option.map_some]

/-- A pixel is turned on and off again, and the one beside it is turned on. -/
def movedAside : List Paint := [[(⟨1, 0⟩, 1)], [], [(⟨2, 0⟩, 1), (⟨1, 0⟩, 0)]]

/-- At the border of their squares the two pixels have their colours, and the window was opened
once. -/
theorem movedAside_shown :
    ∃ w calls, (Window.standard 3).drawAll? movedAside = some (w, calls) ∧
      calls.countP DeviceCall.opensWindow = 1 ∧
      ∀ fresh, ∃ c : Canvas, Canvas.replay fresh none calls = some c ∧
        c.colourAt ⟨5, 2⟩ = Window.offColour ∧ c.colourAt ⟨6, 2⟩ = Window.onColour ∧
        c.colourAt ⟨191, 95⟩ = Window.offColour := by
  obtain ⟨w, calls, hdraw, hopens, -, hshown⟩ :=
    (window_is_scaled_recording 3 (by decide)).1 movedAside (by decide)
  obtain ⟨c, hreplay, -, -, hcolours⟩ := hshown (by decide)
  refine ⟨w, calls, hdraw, hopens, fun fresh => ⟨c, hreplay fresh, ?_, ?_, ?_⟩⟩
  · have hfirst := (hcolours 5 2 (by decide) (by decide) (by decide) (by decide)).1
    exact Option.some_inj.1 hfirst
  · have hsecond := (hcolours 6 2 (by decide) (by decide) (by decide) (by decide)).1
    exact Option.some_inj.1 hsecond
  · have hlast := (hcolours 191 95 (by decide) (by decide) (by decide) (by decide)).1
    exact Option.some_inj.1 hlast

end ChipEight
