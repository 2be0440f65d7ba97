/-
What a display is handed.

A frame that executes instructions hands the pending changes to the display, whatever display that
is, and no other frame hands it anything.  `handedIn` puts together what a number of frames hand
over.  Painted by a recording that mirrors the picture, it leaves a recording that mirrors the
picture as it is after these frames; and a console whose display is a recording has just that.

Once nothing is pending, such a recording shows the whole picture, so that two pictures with the
same pixels are shown the same, however they came about.  Nothing is pending from the first frame
on that executes instructions, as long as the console is not reset.
-/
import ChipEight.Proofs.Alike
import ChipEight.Proofs.Mirror

namespace ChipEight

/-! ### Recordings -/

namespace Recording

variable {first first' r r' : Recording} {s s' : Screen}

/-- Two recordings have the same colour in every place. -/
def ShowsSame (r other : Recording) : Prop :=
  ∀ place : Point, other.pixels[place]? = r.pixels[place]?

theorem pixels_draw_append (r : Recording) (earlier later : Paint) :
    (r.draw (earlier ++ later)).pixels = ((r.draw earlier).draw later).pixels :=
  List.foldl_append

/-- Only the colours that a recording remembers decide what it mirrors. -/
theorem Mirrors.of_pixels (h : r.Mirrors first s) (hpixels : r'.pixels = r.pixels) :
    r'.Mirrors first s :=
  ⟨h.coherent, by rw [hpixels]; exact h.seen, by rw [hpixels]; exact h.beyond⟩

/-- Recordings of pictures with the same pixels, of which nothing is pending, show the same if they
did so at first. -/
theorem Mirrors.showsSame (h : r.Mirrors first s) (h' : r'.Mirrors first' s')
    (hfirst : first.ShowsSame first') (hsame : s.SamePicture s') (hpending : s.pending = ∅)
    (hpending' : s'.pending = ∅) : r.ShowsSame r' := by
  intro place
  have hplaces : s'.Contains place ↔ s.Contains place := by
    rw [Screen.Contains, Screen.Contains, hsame.width, hsame.height]
  by_cases hinside : s.Contains place
  · obtain ⟨on, hpixel, hcolour⟩ := h.shows hpending hinside
    obtain ⟨on', hpixel', hcolour'⟩ := h'.shows hpending' (hplaces.2 hinside)
    obtain ⟨pending, rfl⟩ := hsame.exists_eq
    have hon : some on = some on' := hpixel.symm.trans hpixel'
    rw [hcolour, hcolour', Option.some_inj.1 hon]
  · rw [h.beyond place hinside, h'.beyond place (mt hplaces.1 hinside), hfirst place]

end Recording

namespace Console

open Machine

variable {settings : Settings} {c : Console} {first r : Recording}

/-! ### One frame -/

/-- What the next frame hands to the display. -/
def handed (c : Console) : Paint :=
  if c.executing then
    (left ((runSteps c.stepsPerFrame.toNat).run c.machine)).screen.changes
  else []

theorem handed_of_running (hactive : c.active = true) (hruns : c.machine.cpu.mode = .running) :
    c.handed = (left ((runSteps c.stepsPerFrame.toNat).run c.machine)).screen.changes := by
  rw [handed, executing_of_running hactive hruns]
  rfl

theorem handed_of_inactive (hinactive : c.active = false) : c.handed = [] := by
  rw [handed, executing_of_inactive hinactive]
  rfl

theorem handed_of_waiting {x : Register} (hwaits : c.machine.cpu.mode = .awaitingKey x) :
    c.handed = [] := by
  rw [handed, executing_of_waiting hwaits]
  rfl

/-- The display is handed this and nothing else. -/
theorem display_tick (h : c.WellFormed settings) :
    c.tick.1.display = (c.display.draw c.handed).1 := by
  obtain ⟨answer, -, hframe⟩ := tick_frame h.machine
  generalize c.tick.1 = next at hframe ⊢
  cases hframe with
  | idle inactive =>
      rw [handed_of_inactive inactive]
      rfl
  | waiting active waits =>
      rw [handed_of_waiting waits]
      rfl
  | completed active runs ran =>
      rw [handed_of_running active runs, ran]
      rfl
  | faulted active runs room executes faults =>
      rw [handed_of_running active runs, runSteps_of_stop executes faults room]
      rfl

/-- A recording that mirrors the picture and is handed what a frame hands over mirrors it still. -/
theorem mirrors_tick (h : c.WellFormed settings) (hmirrors : r.Mirrors first c.machine.screen) :
    (r.draw c.handed).Mirrors first c.tick.1.machine.screen := by
  obtain ⟨answer, -, hframe⟩ := tick_frame h.machine
  generalize c.tick.1 = next at hframe ⊢
  cases hframe with
  | idle inactive =>
      rw [handed_of_inactive inactive]
      exact hmirrors.of_pixels rfl
  | waiting active waits =>
      rw [handed_of_waiting waits]
      have hscreen := pollKeys_screen c.machine
      show (r.draw []).Mirrors first (pollKeys c.machine).screen
      rw [hscreen]
      exact hmirrors.of_pixels rfl
  | completed active runs ran =>
      rw [handed_of_running active runs, ran]
      exact (runSteps_screen Recording.keptByDrawing_mirrors ran hmirrors).draw
  | @faulted executed before after fault active runs room executes faults =>
      rw [handed_of_running active runs, runSteps_of_stop executes faults room]
      have hbefore := executes.screen Recording.keptByDrawing_mirrors hmirrors
      have hscreen : after.screen = before.screen := by
        obtain ⟨operand, pc, rfl⟩ := step_stops faults
        rfl
      have hafter : r.Mirrors first after.screen := hscreen ▸ hbefore
      exact hafter.draw

/-! ### A number of frames -/

/-- What a number of frames hand to the display. -/
def handedIn : Nat → Console → Paint
  | 0, _ => []
  | ticks + 1, c => c.handed ++ handedIn ticks c.tick.1

theorem mirrors_ticked (ticks : Nat) :
    ∀ {c : Console} {r : Recording}, c.WellFormed settings →
      r.Mirrors first c.machine.screen →
      (r.draw (c.handedIn ticks)).Mirrors first (c.ticked ticks).machine.screen := by
  induction ticks with
  | zero =>
      intro c r _ hmirrors
      exact hmirrors.of_pixels rfl
  | succ ticks ih =>
      intro c r hwell hmirrors
      have hrest := ih hwell.tick (mirrors_tick hwell hmirrors)
      exact hrest.of_pixels (Recording.pixels_draw_append r _ _)

/-- A recording has painted all of it. -/
theorem recording_ticked (ticks : Nat) :
    ∀ {c : Console} {r : Recording}, c.WellFormed settings → c.display = .recording r →
      ∃ q, (c.ticked ticks).display = .recording q ∧
        q.pixels = (r.draw (c.handedIn ticks)).pixels := by
  induction ticks with
  | zero =>
      intro c r _ hdisplay
      exact ⟨r, hdisplay, rfl⟩
  | succ ticks ih =>
      intro c r hwell hdisplay
      obtain ⟨between, hbetween, hpixels⟩ : ∃ between, c.tick.1.display = .recording between ∧
          between.pixels = (r.draw c.handed).pixels := by
        rw [display_tick hwell, hdisplay]
        cases hhanded : c.handed with
        | nil => exact ⟨r, rfl, rfl⟩
        | cons change rest => exact ⟨r.draw (change :: rest), rfl, rfl⟩
      obtain ⟨q, hq, hlast⟩ := ih hwell.tick hbetween
      refine ⟨q, hq, ?_⟩
      rw [hlast, handedIn, Recording.pixels_draw_append, Recording.draw, Recording.draw, hpixels]

/-! ### Changes that are pending -/

/-- A frame that executes instructions leaves nothing pending, and no frame makes anything
pending. -/
theorem Frame.pending {next : Console} {answer : Bool} (h : Frame c next answer)
    (hshown : c.machine.screen.pending = ∅ ∨ c.executing = true) :
    next.machine.screen.pending = ∅ := by
  cases h with
  | idle inactive =>
      refine hshown.resolve_right ?_
      simp [executing_of_inactive inactive]
  | waiting active waits =>
      have hscreen := pollKeys_screen c.machine
      have hpending : c.machine.screen.pending = ∅ := by
        refine hshown.resolve_right ?_
        simp [executing_of_waiting waits]
      show (pollKeys c.machine).screen.pending = ∅
      rw [hscreen, hpending]
  | completed active runs ran => rfl
  | faulted active runs room executes faults => rfl

theorem pending_ticked (ticks : Nat) :
    ∀ {c : Console}, c.WellFormed settings →
      c.machine.screen.pending = ∅ ∨ c.executing = true →
      (c.ticked (ticks + 1)).machine.screen.pending = ∅ := by
  induction ticks with
  | zero =>
      intro c hwell hshown
      obtain ⟨answer, -, hframe⟩ := tick_frame hwell.machine
      exact hframe.pending hshown
  | succ ticks ih =>
      intro c hwell hshown
      obtain ⟨answer, -, hframe⟩ := tick_frame hwell.machine
      rw [ticked_succ]
      exact ih hwell.tick (Or.inl (hframe.pending hshown))

end Console

end ChipEight
