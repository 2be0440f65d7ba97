/-
What a recording remembers.

A display is handed changes only, so what it shows hangs on every change it was ever handed.
`Mirrors` is what is carried along: a recording has the colour of every pixel that is not
pending, and it knows no place that is not in the picture, unless it knew it before.  Flipping
a pixel makes that pixel pending and clearing makes all of them so, which leaves the recording
right about the rest.  Handing the pending changes over is what makes it right about them.

A console that waits for a key shows nothing.  But it began to wait in a frame that ended by
showing the picture, and nothing but a frame draws, so there is nothing to be shown.  That is
why `Mirrored` says, besides, that nothing is pending in an active console that waits.
-/
import ChipEight.Proofs.LifeCycle

namespace ChipEight

/-! ### The order of places -/

instance : Std.TransOrd Point :=
  inferInstanceAs (Std.TransCmp (compareLex (compareOn Point.y) (compareOn Point.x)))

instance : Std.LawfulEqOrd Point where
  eq_of_compare {a b} h := by
    obtain ⟨hrow, hcolumn⟩ := compareLex_eq_eq.1 h
    have hy : a.y = b.y := Std.LawfulEqOrd.compare_eq_iff_eq.1 hrow
    have hx : a.x = b.x := Std.LawfulEqOrd.compare_eq_iff_eq.1 hcolumn
    calc a = ⟨a.x, a.y⟩ := rfl
      _ = ⟨b.x, b.y⟩ := by rw [hx, hy]
      _ = b := rfl

/-! ### Painting over -/

namespace Recording

/-- A place that is painted one way only, or not at all but is as it should be, ends as it
should. -/
theorem getElem?_foldl_insert {paint : Paint} {place : Point} {shown : Option Int} :
    ∀ {pixels : Std.TreeMap Point Int},
      (∀ change ∈ paint, change.1 = place → some change.2 = shown) →
      ((∃ change ∈ paint, change.1 = place) ∨ pixels[place]? = shown) →
      (paint.foldl (fun pixels (place, colour) => pixels.insert place colour) pixels)[place]? =
        shown := by
  induction paint with
  | nil =>
      intro pixels _ hshown
      simpa using hshown
  | cons change rest ih =>
      intro pixels hagree hshown
      rw [List.foldl_cons]
      refine ih (fun other hother => hagree other (List.mem_cons_of_mem _ hother)) ?_
      by_cases hrest : ∃ other ∈ rest, other.1 = place
      · exact Or.inl hrest
      · refine Or.inr ?_
        rw [Std.TreeMap.getElem?_insert]
        by_cases hhere : change.1 = place
        · rw [if_pos (by rw [hhere]; exact Std.ReflCmp.compare_self)]
          exact hagree change (by simp) hhere
        · rw [if_neg (by rw [Std.LawfulEqCmp.compare_eq_iff_eq]; exact hhere)]
          rcases hshown with ⟨other, hother, hplace⟩ | hbefore
          · rcases List.mem_cons.1 hother with rfl | hlater
            · exact absurd hplace hhere
            · exact absurd ⟨other, hlater, hplace⟩ hrest
          · exact hbefore

section

variable {r : Recording} {s : Screen} {width height : Int} (h : s.Coherent width height)

include h

/-- A recording that is handed the changes knows the pixels that changed, and those that it knew
before. -/
theorem getElem?_draw_changes {index : Int}
    (hseen : s.pending[index]? = none →
      r.pixels[s.placeOf index]? = some (Screen.colour (s.lit index))) :
    (r.draw s.changes).pixels[s.placeOf index]? = some (Screen.colour (s.lit index)) := by
  refine getElem?_foldl_insert ?_ ?_
  · intro change hchange hplace
    obtain ⟨other, on, hpending, rfl⟩ := Screen.mem_changes_iff.1 hchange
    rw [← Screen.placeOf_injective hplace, (h.pending other on hpending).2.2]
  · cases hpending : s.pending[index]? with
    | none => exact Or.inr (hseen hpending)
    | some on => exact Or.inl ⟨_, Screen.mem_changes_iff.2 ⟨index, on, hpending, rfl⟩, rfl⟩

/-- About any other place it is told nothing. -/
theorem getElem?_draw_changes_beyond {place : Point} (houtside : ¬ s.Contains place) :
    (r.draw s.changes).pixels[place]? = r.pixels[place]? := by
  refine getElem?_foldl_insert ?_ (Or.inr rfl)
  intro change hchange hplace
  obtain ⟨index, on, hpending, rfl⟩ := Screen.mem_changes_iff.1 hchange
  obtain ⟨hlow, hhigh, -⟩ := h.pending index on hpending
  have hindex : s.IsIndex index := ⟨hlow, by rw [h.width_eq, h.height_eq]; exact hhigh⟩
  exact absurd (hplace ▸ h.complete.contains_placeOf hindex) houtside

end

/-- A recording has the colour of every pixel that is not pending.  Of places that are not in the
picture it knows what it knew at first. -/
structure Mirrors (r first : Recording) (s : Screen) : Prop where
  coherent : s.Coherent Screen.standardWidth Screen.standardHeight
  seen : ∀ index, s.IsIndex index → s.pending[index]? = none →
    r.pixels[s.placeOf index]? = some (Screen.colour (s.lit index))
  beyond : ∀ place, ¬ s.Contains place → r.pixels[place]? = first.pixels[place]?

variable {first r : Recording} {s : Screen}

theorem keptByDrawing_mirrors : Screen.KeptByDrawing (r.Mirrors first) where
  complete := fun h => h.coherent.complete
  cleared := by
    intro s h
    refine ⟨h.coherent.cleared, ?_, h.beyond⟩
    intro index hindex hseen
    exact absurd hseen (Screen.pending_blank h.coherent.complete.width_pos
      h.coherent.complete.height_pos hindex)
  flip := by
    intro s index h hindex
    have hplace := hindex
    rw [Screen.IsIndex, h.coherent.width_eq, h.coherent.height_eq] at hplace
    refine ⟨h.coherent.flip hplace, ?_, h.beyond⟩
    intro other hother hseen
    simp only [Screen.flip, Std.TreeMap.getElem?_insert,
      Std.LawfulEqCmp.compare_eq_iff_eq] at hseen
    by_cases hsame : index = other
    · rw [if_pos hsame] at hseen
      cases hseen
    · rw [if_neg hsame] at hseen
      rw [Screen.lit_flip h.coherent.size hplace hother.1, if_neg hsame]
      exact h.seen other hother hseen

theorem mirrors_standard : r.Mirrors r .standard where
  coherent := Screen.coherent_standard
  seen := by
    intro index hindex hseen
    exact absurd hseen (Screen.pending_blank (by decide) (by decide) hindex)
  beyond := fun _ _ => rfl

/-- Once the pending changes are painted, the recording shows the picture. -/
theorem Mirrors.draw (h : r.Mirrors first s) :
    (r.draw s.changes).Mirrors first s.handOver.1 where
  coherent := h.coherent.handOver
  seen := by
    intro index hindex _
    exact getElem?_draw_changes h.coherent (h.seen index hindex)
  beyond := by
    intro place houtside
    rw [getElem?_draw_changes_beyond h.coherent houtside, h.beyond place houtside]

/-- With nothing pending, the recording has the colours of the whole picture. -/
theorem Mirrors.shows (h : r.Mirrors first s) (hpending : s.pending = ∅) {x y : Int}
    (hplace : s.Contains ⟨x, y⟩) :
    ∃ on, s.pixel? x y = some on ∧
      r.pixels[(⟨x, y⟩ : Point)]? = some (Screen.colour on) := by
  obtain ⟨index, hindex, hplaced, htarget⟩ := h.coherent.complete.target?_of_contains hplace
  refine ⟨s.lit index, by rw [Screen.pixel?, htarget, Option.map_some], ?_⟩
  rw [← hplaced]
  refine h.seen index hindex ?_
  rw [hpending]
  exact Std.TreeMap.getElem?_emptyc

end Recording

/-! ### Consoles -/

namespace Console

open Machine

variable {settings : Settings} {first : Recording} {c next : Console} {answer : Bool}

/-- The display of a console is a recording that mirrors its picture, and shows all of it while
the console waits for a key. -/
structure Mirrored (first : Recording) (c : Console) : Prop where
  mirror : ∃ r, c.display = .recording r ∧ r.Mirrors first c.machine.screen
  waiting : c.active = true → c.machine.cpu.running = false → c.machine.screen.pending = ∅

theorem render_mirror (h : ∃ r, c.display = .recording r ∧ r.Mirrors first c.machine.screen) :
    ∃ r, c.render.display = .recording r ∧ r.Mirrors first c.render.machine.screen := by
  obtain ⟨r, hdisplay, hmirrors⟩ := h
  have hdrawn := hmirrors.draw
  by_cases hnone : c.machine.screen.changes = []
  · -- The display is left alone, as painting nothing would leave it.
    rw [hnone] at hdrawn
    refine ⟨r, ?_, hdrawn.coherent, hdrawn.seen, hdrawn.beyond⟩
    show (c.display.draw c.machine.screen.changes).1 = _
    rw [hdisplay, hnone]
    rfl
  · refine ⟨r.draw c.machine.screen.changes, ?_, hdrawn⟩
    show (c.display.draw c.machine.screen.changes).1 = _
    rw [hdisplay, Display.draw, if_neg (by simpa using hnone)]

theorem pollKeys_screen (m : Machine) : (pollKeys m).screen = m.screen := by
  simp only [pollKeys]
  split <;> rfl

/-- A frame of an active console leaves nothing pending. -/
theorem Mirrored.frame (h : c.Mirrored first) (hframe : Frame c next answer) :
    next.Mirrored first ∧ (c.active = true → next.machine.screen.pending = ∅) := by
  cases hframe with
  | idle inactive =>
      refine ⟨h, ?_⟩
      intro hactive
      rw [inactive] at hactive
      cases hactive
  | waiting active waits =>
      have hscreen := pollKeys_screen c.machine
      have hseen := h.waiting active (Cpu.running_eq_false.2 ⟨_, waits⟩)
      have hpending : (pollKeys c.machine).screen.pending = ∅ := by rw [hscreen, hseen]
      obtain ⟨r, hdisplay, hmirrors⟩ := h.mirror
      refine ⟨⟨⟨r, hdisplay, ?_⟩, fun _ _ => hpending⟩, fun _ => hpending⟩
      show r.Mirrors first (pollKeys c.machine).screen
      rw [hscreen]
      exact hmirrors
  | @completed after active runs ran =>
      obtain ⟨r, hdisplay, hmirrors⟩ := h.mirror
      have hafter := runSteps_screen Recording.keptByDrawing_mirrors ran hmirrors
      have hshown := render_mirror (c := { c with machine := after }) ⟨r, hdisplay, hafter⟩
      exact ⟨⟨hshown, fun _ _ => rfl⟩, fun _ => rfl⟩
  | @faulted executed before after fault active runs room executes faults =>
      obtain ⟨r, hdisplay, hmirrors⟩ := h.mirror
      have hbefore := executes.screen Recording.keptByDrawing_mirrors hmirrors
      have hscreen : after.screen = before.screen := by
        rcases step_fault faults with ⟨-, rfl⟩ | ⟨operand, -, -, -, -, rfl⟩
        · rfl
        · rfl
      have hafter : r.Mirrors first after.screen := hscreen ▸ hbefore
      have hshown := render_mirror (c := { c with machine := after }.halt fault)
        ⟨r, hdisplay, hafter⟩
      exact ⟨⟨hshown, fun _ _ => rfl⟩, fun _ => rfl⟩

/-- A reset clears the picture, and has the processor run. -/
theorem Mirrored.reset (hwell : c.WellFormed settings) (h : c.Mirrored first) :
    c.reset.1.Mirrored first := by
  obtain ⟨r, hdisplay, hmirrors⟩ := h.mirror
  rw [hwell.reset_eq]
  refine ⟨⟨r, hdisplay, ?_⟩, ?_⟩
  · show r.Mirrors first (Machine.onSpeaker _ Speaker.stop).screen
    rw [onSpeaker_screen]
    exact Recording.keptByDrawing_mirrors.cleared hmirrors
  · intro hactive
    cases hactive

theorem Mirrored.load (hwell : c.WellFormed settings) (h : c.Mirrored first)
    (program : List UInt8) : (c.load program).1.Mirrored first := by
  have hreset := h.reset hwell
  rw [hwell.load_eq]
  split
  · exact hreset
  · refine ⟨hreset.mirror, ?_⟩
    intro _ hwaits
    have hruns : c.reset.1.machine.cpu.running = false := hwaits
    rw [hwell.reset_cpu] at hruns
    cases hruns

theorem Mirrored.still (h : c.Mirrored first) (hstill : Still c next) : next.Mirrored first where
  mirror := by
    obtain ⟨r, hdisplay, hmirrors⟩ := h.mirror
    refine ⟨r, by rw [hstill.display, hdisplay], ?_⟩
    rw [hstill.screen]
    exact hmirrors
  waiting := by
    rw [hstill.active, hstill.cpu, hstill.screen]
    exact h.waiting

/-- Whatever happens to a console, its recording mirrors the picture. -/
theorem Mirrored.apply (hwell : c.WellFormed settings) (h : c.Mirrored first)
    (operation : Operation) : (c.apply operation).Mirrored first := by
  cases operation with
  | load program => exact h.load hwell program
  | reset => exact h.reset hwell
  | tick =>
      obtain ⟨answer, -, hframe⟩ := tick_frame hwell.machine
      exact (h.frame hframe).1
  | _ => exact h.still (still_manual trivial)

theorem mirrored_poweredOn {speaker : Speaker} {random : RandomSource} {log : List DeviceCall}
    (on : poweredOn? settings speaker (.recording first) random log = .ok c) :
    c.Mirrored first := by
  obtain ⟨memory, interval, hwell, hreset⟩ := poweredOn?_reset on
  have hunreset : (unreset settings memory interval speaker (.recording first) random
      log).Mirrored first := by
    refine ⟨⟨first, rfl, Recording.mirrors_standard⟩, ?_⟩
    intro hactive
    cases hactive
  have hafter := hunreset.reset hwell
  rw [hreset] at hafter
  exact hafter

theorem Mirrored.after (hreachable : Reachable settings c) (h : c.Mirrored first)
    {operations : List Operation} : (c.after operations).Mirrored first := by
  have hboth : Reachable settings (c.after operations) ∧ (c.after operations).Mirrored first := by
    refine after_induction (P := fun d => Reachable settings d ∧ d.Mirrored first)
      ⟨hreachable, h⟩ ?_
    rintro d ⟨hd, hmirrored⟩ operation -
    exact ⟨hd.apply operation, hmirrored.apply hd.wellFormed operation⟩
  exact hboth.2

/-- **A recording never drifts from the picture.**  After every frame of an active console, be it
that it ran to its end, that it faulted or that it was spent waiting for a key, the recording
has the colour of every pixel as it stands, and nothing is pending.  It knows no other place,
except for those that it knew before the console was switched on. -/
theorem recording_shows_picture {speaker : Speaker} {random : RandomSource}
    {log : List DeviceCall} (on : poweredOn? settings speaker (.recording first) random log = .ok c)
    (operations : List Operation) (hactive : (c.after operations).active = true) :
    let next := (c.after operations).tick.1
    ∃ r, next.display = .recording r ∧
      (∀ x y : Int, 0 ≤ x → x < 64 → 0 ≤ y → y < 32 →
        ∃ on, next.machine.screen.pixel? x y = some on ∧
          r.pixels[(⟨x, y⟩ : Point)]? = some (Screen.colour on)) ∧
      (∀ x y : Int, ¬ (0 ≤ x ∧ x < 64 ∧ 0 ≤ y ∧ y < 32) →
        r.pixels[(⟨x, y⟩ : Point)]? = first.pixels[(⟨x, y⟩ : Point)]?) ∧
      next.machine.screen.pending = ∅ := by
  intro next
  have hreachable : Reachable settings (c.after operations) := (Reachable.poweredOn on).after
  have hbefore : (c.after operations).Mirrored first :=
    (mirrored_poweredOn on).after (.poweredOn on)
  obtain ⟨answer, -, hframe⟩ := tick_frame hreachable.wellFormed.machine
  obtain ⟨hafter, hshown⟩ := hbefore.frame hframe
  obtain ⟨r, hdisplay, hmirrors⟩ := hafter.mirror
  have hpending : next.machine.screen.pending = ∅ := hshown hactive
  have hplace : ∀ x y : Int, next.machine.screen.Contains ⟨x, y⟩ ↔
      0 ≤ x ∧ x < 64 ∧ 0 ≤ y ∧ y < 32 := by
    intro x y
    rw [Screen.Contains, hmirrors.coherent.width_eq, hmirrors.coherent.height_eq]
    rfl
  refine ⟨r, hdisplay, ?_, ?_, hpending⟩
  · intro x y hleft hright htop hbottom
    exact hmirrors.shows hpending ((hplace x y).2 ⟨hleft, hright, htop, hbottom⟩)
  · intro x y houtside
    exact hmirrors.beyond ⟨x, y⟩ (mt (hplace x y).1 houtside)

/-- A program that draws the digit zero in the corner of the picture. -/
def drawingZero : List UInt8 := [0xF0, 0x29, 0xD0, 0x05]

set_option maxRecDepth 4000 in
/-- The corner of the digit is lit and the middle of it is dark.  No place is known beside the
picture. -/
theorem pair_drawn_shows :
    ∃ r, ((pair.after [.load drawingZero]).tick.1).display = .recording r ∧
      r.pixels[(⟨0, 0⟩ : Point)]? = some 1 ∧ r.pixels[(⟨1, 1⟩ : Point)]? = some 0 ∧
      r.pixels[(⟨64, 31⟩ : Point)]? = none := by
  have hstarts : (pair.apply (.load drawingZero)).active = true ∧
      (pair.apply (.load drawingZero)).machine.cpu.mode = .running := by decide +kernel
  have hran : (ended? 2 (pair.apply (.load drawingZero)).machine).map
      (fun m => (m.screen.pixel? 0 0, m.screen.pixel? 1 1)) =
        some (some true, some false) := by decide +kernel
  obtain ⟨after, hleaves, htick⟩ := tick_of_ended hstarts.1 hstarts.2 hran
  have hcorner : after.screen.pixel? 0 0 = some true := congrArg Prod.fst hleaves
  have hmiddle : after.screen.pixel? 1 1 = some false := congrArg Prod.snd hleaves
  obtain ⟨r, hdisplay, hinside, houtside, -⟩ :=
    recording_shows_picture pair_poweredOn [.load drawingZero] hstarts.1
  have hloaded : pair.after [.load drawingZero] = pair.apply (.load drawingZero) := rfl
  have hcolour : ∀ x y : Int, 0 ≤ x → x < 64 → 0 ≤ y → y < 32 →
      r.pixels[(⟨x, y⟩ : Point)]? = (after.screen.pixel? x y).map Screen.colour := by
    intro x y hleft hright htop hbottom
    obtain ⟨on, hon, hshown⟩ := hinside x y hleft hright htop hbottom
    have hafter : after.screen.pixel? x y = some on := by
      rw [hloaded, htick] at hon
      exact hon
    rw [hshown, hafter]
    rfl
  refine ⟨r, hdisplay, ?_, ?_, ?_⟩
  · rw [hcolour 0 0 (by decide) (by decide) (by decide) (by decide), hcorner]
    rfl
  · rw [hcolour 1 1 (by decide) (by decide) (by decide) (by decide), hmiddle]
    rfl
  · rw [houtside 64 31 (by decide)]
    exact Std.TreeMap.getElem?_emptyc

end Console

end ChipEight
