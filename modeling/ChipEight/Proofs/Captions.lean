/-
What a console tells the window and the speaker.

The window is given captions when it is opened and by the session that it belongs to.  Nothing that
a console does by itself gives it one: neither the speaker nor an open window makes such a call
(`Playback.captions_after`, `Display.Settled`).  And of all operations, muting and unmuting alone
decide whether the speaker is muted.

`Console.Tells` is what is carried along of both, and each thing that can happen to a console, a
load from a file and a caption included, has a lemma that says what is told after it.
-/
import ChipEight.Proofs.Loading
import ChipEight.Proofs.Tones

namespace ChipEight

open Speaker (Request)

/-! ### Captions -/

/-- The caption that a call gives the window, if it gives it one. -/
def DeviceCall.caption? : DeviceCall → Option String
  | .caption text => some text
  | _ => none

theorem DeviceCall.caption?_of_paints {call : DeviceCall} (h : call.Paints) :
    call.caption? = none := by
  cases call with
  | caption text => cases h
  | _ => rfl

theorem Speaker.captions_answer (s : Speaker) (request : Request) :
    (s.answer request).2.filterMap DeviceCall.caption? = [] := by
  have happly : ∀ t : Speaker, t.applyVolume.filterMap DeviceCall.caption? = [] := by
    intro t
    rw [applyVolume]
    split <;> rfl
  cases request with
  | play ticks =>
      show (s.play ticks).2.1.filterMap DeviceCall.caption? = []
      rw [play_calls]
      split
      · split <;> split <;> rfl
      · rfl
  | stop =>
      show (if s.audible then [DeviceCall.stopTone] else []).filterMap DeviceCall.caption? = []
      split <;> rfl
  | mute => exact happly _
  | unmute => exact happly _
  | setVolume volume => exact happly _

/-- The captions that the window was given, the first one first. -/
def Playback.captions (p : Playback) : List String := p.calls.filterMap DeviceCall.caption?

theorem Playback.captions_note (p : Playback) (calls : List DeviceCall) :
    (p.note calls).captions = p.captions ++ calls.filterMap DeviceCall.caption? :=
  List.filterMap_append

theorem Playback.captions_ask (p : Playback) (request : Request) :
    (p.ask request).captions = p.captions := by
  have hanswer := p.captions_note (p.speaker.answer request).2
  rwa [p.speaker.captions_answer, List.append_nil] at hanswer

/-- A speaker has nothing to do with the window. -/
theorem Playback.captions_after (requests : List Request) (p : Playback) :
    (p.after requests).captions = p.captions :=
  after_induction (P := fun q => q.captions = p.captions) rfl fun q hq request _ =>
    (q.captions_ask request).trans hq

/-- Nothing that is shown on the display gives the window a caption.  Only a window that is not open
yet does that, when it is opened. -/
def Display.Settled : Display → Prop
  | .window w => w.isOpen = true
  | _ => True

theorem Display.Settled.captions_draw {d : Display} (h : d.Settled) (paint : Paint) :
    (d.draw paint).2.filterMap DeviceCall.caption? = [] := by
  refine List.filterMap_eq_nil_iff.2 fun call hcall => ?_
  rcases paints_or_opens hcall with hpaints | ⟨w, rfl, hclosed, -⟩
  · exact DeviceCall.caption?_of_paints hpaints
  · rw [Settled, hclosed] at h
    cases h

theorem Display.Settled.draw {d : Display} (h : d.Settled) (paint : Paint) :
    (d.draw paint).1.Settled := by
  unfold Display.draw
  split
  · exact h
  · cases d with
    | off => trivial
    | recording r => trivial
    | window w =>
        have hopen : w.isOpen = true := h
        simp [Window.draw, hopen, Settled]

/-! ### What a console tells the window and the speaker -/

namespace Console

open Machine

variable {settings : Settings} {c : Console} {muted : Bool} {captions : List String}

theorem display_apply (h : c.WellFormed settings) (operation : Operation) :
    (c.apply operation).display =
      if operation = .tick then (c.display.draw c.handed).1 else c.display := by
  have hreset : c.reset.1.display = c.display := by rw [h.reset_eq]
  cases operation with
  | load program =>
      show (c.load program).1.display = c.display
      rw [h.load_eq]
      split <;> exact hreset
  | reset => exact hreset
  | tick => exact display_tick h
  | _ => rfl

/-- Whether the speaker is muted after an operation, if the operation decides that. -/
def Operation.muted? : Operation → Option Bool
  | .mute => some true
  | .unmute => some false
  | _ => none

theorem muted_requests (c : Console) (operation : Operation) :
    ((c.requests operation).filterMap Request.muted?).getLastD muted =
      operation.muted?.getD muted := by
  cases operation with
  | tick =>
      have hplays : (c.requests .tick).filterMap Request.muted? = [] := by
        rw [requests, List.filterMap_map]
        exact List.filterMap_eq_nil_iff.2 fun _ _ => rfl
      rw [hplays]
      rfl
  | _ => rfl

/-- What the speaker and the window were told last. -/
structure Tells (settings : Settings) (muted : Bool) (captions : List String) (c : Console) :
    Prop where
  wellFormed : c.WellFormed settings
  playback : ∃ p, c.machine.playback? = some p ∧ p.speaker.muted = muted ∧ p.captions = captions
  display : c.display.Settled

/-- No operation sets a caption. -/
theorem Tells.apply (h : c.Tells settings muted captions) (operation : Operation) :
    (c.apply operation).Tells settings (operation.muted?.getD muted) captions := by
  obtain ⟨p, hp, hmuted, hcaptions⟩ := h.playback
  refine ⟨h.wellFormed.apply operation, ?_, ?_⟩
  · refine ⟨(p.after (c.requests operation)).note (c.painted operation), ?_, ?_, ?_⟩
    · rw [playback?_apply h.wellFormed, hp]
      rfl
    · show (p.after (c.requests operation)).speaker.muted = _
      rw [p.muted_after, hmuted, muted_requests]
    · have hpainted : (c.painted operation).filterMap DeviceCall.caption? = [] := by
        cases operation with
        | tick => exact h.display.captions_draw c.handed
        | _ => rfl
      rw [Playback.captions_note, hpainted, List.append_nil, p.captions_after, hcaptions]
  · rw [display_apply h.wellFormed]
    split
    · exact h.display.draw c.handed
    · exact h.display

theorem Tells.withLooping (h : c.Tells settings muted captions) (looping : Bool) :
    ({ c with looping := looping } : Console).Tells settings muted captions :=
  ⟨⟨h.wellFormed.machine, h.wellFormed.sprites, h.wellFormed.steps, h.wellFormed.healthy⟩,
    h.playback, h.display⟩

theorem Tells.caption (h : c.Tells settings muted captions) (text : String) :
    ({ c with machine := c.machine.request [.caption text] } : Console).Tells settings muted
      (captions ++ [text]) := by
  obtain ⟨p, hp, hmuted, hcaptions⟩ := h.playback
  have hwell := h.wellFormed
  refine ⟨⟨⟨hwell.machine.memory, hwell.machine.calls, hwell.machine.cpu, hwell.machine.screen⟩,
    hwell.sprites, hwell.steps, hwell.healthy⟩, ⟨p.note [.caption text], ?_, hmuted, ?_⟩,
    h.display⟩
  · rw [playback?_request, hp]
    rfl
  · rw [Playback.captions_note, hcaptions]
    rfl

theorem tells_poweredOn {speaker : Speaker} {display : Display} {random : RandomSource}
    {log : List DeviceCall} (on : poweredOn? settings speaker display random log = .ok c)
    (settled : display.Settled) :
    c.Tells settings speaker.muted (log.filterMap DeviceCall.caption?) := by
  refine ⟨wellFormed_poweredOn on, ⟨_, playback?_poweredOn on, rfl, Playback.captions_ask _ _⟩, ?_⟩
  obtain ⟨memory, interval, hwell, hreset⟩ := poweredOn?_reset on
  have hdisplay := display_apply hwell .reset
  rw [apply, hreset] at hdisplay
  rw [hdisplay]
  exact settled

theorem Tells.loadFile (h : c.Tells settings muted captions) (read : Reader) (name : String) :
    (c.loadFile read name).1.Tells settings muted captions := by
  rcases c.loadFile_or read name with ⟨error, -, hfails⟩ | ⟨program, -, hload⟩
  · rwa [hfails]
  · rw [hload]
    exact h.apply (.load program)

end Console

end ChipEight
