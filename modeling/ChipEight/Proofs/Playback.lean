/-
What a speaker makes of what it is asked for.

A speaker is asked to play and to stop, to be silent and to be heard again, and to take another
volume, in any order.  A `Playback` is a speaker with the calls that were made to the devices so
far; `ask` is one request, and `after` a row of them.  What some requests set and the others leave
alone is what was set last (`last_after`).

A speaker is silent when it is made, and not muted, and a mixer knows its volume (`New`).
-/
import ChipEight.Session

namespace ChipEight

/-! ### Requests -/

/-- The level that a call tells the mixer, if it tells one. -/
def DeviceCall.level? : DeviceCall → Option Binary64
  | .toneVolume level => some level
  | _ => none

/-- The call opens the mixer. -/
def DeviceCall.OpensMixer : DeviceCall → Prop
  | .openMixer .. => True
  | _ => False

/-- What no opening of a mixer tells is not told by several. -/
theorem DeviceCall.filterMap_opening {α : Type} {tells? : DeviceCall → Option α}
    {opening : List DeviceCall}
    (huntold : ∀ rate size channels, tells? (.openMixer rate size channels) = none)
    (hopens : ∀ call ∈ opening, call.OpensMixer) : opening.filterMap tells? = [] := by
  refine List.filterMap_eq_nil_iff.2 fun call hcall => ?_
  have hopen := hopens call hcall
  cases call with
  | openMixer rate size channels => exact huntold rate size channels
  | _ => cases hopen

namespace Speaker

/-- What a speaker can be asked for. -/
inductive Request where
  | play (ticks : Int)
  | stop
  | mute
  | unmute
  | setVolume (volume : Amount)
  deriving DecidableEq, Repr

/-- The volume that a request sets, if it sets one. -/
def Request.volume? : Request → Option Binary64
  | .setVolume volume => some volume.clamped
  | _ => none

/-- Whether the tone is not to be heard after a request, if the request has to do with it. -/
def Request.muted? : Request → Option Bool
  | .mute => some true
  | .unmute => some false
  | _ => none

/-- Whether a request has to do with how loud the tone is. -/
def Request.IsSetting : Request → Prop
  | .play _ => False
  | .stop => False
  | _ => True

/-- The speaker after a request, and the calls that it makes. -/
def answer (s : Speaker) : Request → Speaker × List DeviceCall
  | .play ticks => ((s.play ticks).1, (s.play ticks).2.1)
  | .stop => s.stop
  | .mute => s.mute
  | .unmute => s.unmute
  | .setVolume volume => s.setVolume volume

section

variable (s : Speaker) (ticks : Int) (request : Request)

/-- Playing notes that the tone sounds, whatever becomes of it. -/
theorem play_speaker : (s.play ticks).1 = { s with playing := true, duration := ticks } := by
  unfold play
  cases milliseconds ticks <;> cases s.audible <;> rfl

/-- A tone that sounds is ended, and then one is started if its time can be told. -/
theorem play_calls :
    (s.play ticks).2.1 =
      if s.audible then
        match milliseconds ticks with
        | .ok time => (if s.playing then [.stopTone] else []) ++ [.playTone (-1) time]
        | .error _ => if s.playing then [.stopTone] else []
      else [] := by
  unfold play
  cases milliseconds ticks <;> cases s.audible <;> rfl

theorem answer_audible : (s.answer request).1.audible = s.audible := by
  cases request with
  | play ticks => rw [answer, play_speaker]
  | _ => rfl

theorem answer_volume : (s.answer request).1.volume = request.volume?.getD s.volume := by
  cases request with
  | play ticks => rw [answer, play_speaker]; rfl
  | _ => rfl

theorem answer_muted : (s.answer request).1.muted = request.muted?.getD s.muted := by
  cases request with
  | play ticks => rw [answer, play_speaker]; rfl
  | _ => rfl

theorem play_levels : (s.play ticks).2.1.filterMap DeviceCall.level? = [] := by
  rw [play_calls]
  split
  · split <;> split <;> rfl
  · rfl

/-- Every setting is told to the mixer. -/
theorem answer_levels_of_setting (hsetting : request.IsSetting) :
    (s.answer request).2.filterMap DeviceCall.level? =
      if s.audible then [(s.answer request).1.level] else [] := by
  have happly : ∀ t : Speaker, t.applyVolume.filterMap DeviceCall.level? =
      if t.audible then [t.level] else [] := by
    intro t
    rw [applyVolume]
    split <;> rfl
  rw [← s.answer_audible request]
  cases request with
  | play ticks => cases hsetting
  | stop => cases hsetting
  | mute => exact happly _
  | unmute => exact happly _
  | setVolume volume => exact happly _

/-- Other requests leave the level alone. -/
theorem answer_levels_of_not_setting (hother : ¬ request.IsSetting) :
    (s.answer request).2.filterMap DeviceCall.level? = [] ∧
      (s.answer request).1.level = s.level := by
  cases request with
  | play ticks =>
      refine ⟨s.play_levels ticks, ?_⟩
      rw [answer, play_speaker]
      rfl
  | stop =>
      refine ⟨?_, rfl⟩
      show (if s.audible then [DeviceCall.stopTone] else []).filterMap DeviceCall.level? = []
      split <;> rfl
  | mute => exact absurd trivial hother
  | unmute => exact absurd trivial hother
  | setVolume volume => exact absurd trivial hother

end

end Speaker

/-! ### Requests one after the other -/

/-- A speaker, and the calls that were made to the devices so far, oldest first. -/
structure Playback where
  speaker : Speaker
  calls : List DeviceCall

namespace Playback

open Speaker (Request)

/-- The levels that the mixer was told. -/
def levels (p : Playback) : List Binary64 := p.calls.filterMap DeviceCall.level?

/-- The speaker answers one request. -/
def ask (p : Playback) (request : Request) : Playback :=
  ⟨(p.speaker.answer request).1, p.calls ++ (p.speaker.answer request).2⟩

/-- The speaker answers requests one after the other. -/
def after (p : Playback) (requests : List Request) : Playback := requests.foldl ask p

/-- Other calls are made to the devices. -/
def note (p : Playback) (calls : List DeviceCall) : Playback := { p with calls := p.calls ++ calls }

theorem note_nil (p : Playback) : p.note [] = p := by
  rw [note, List.append_nil]

theorem after_cons (p : Playback) (request : Request) (rest : List Request) :
    p.after (request :: rest) = (p.ask request).after rest := rfl

/-- What each request of a list keeps, all of them keep. -/
theorem after_induction {P : Playback → Prop} {p : Playback} {requests : List Request} (h : P p)
    (keeps : ∀ q, P q → ∀ request ∈ requests, P (q.ask request)) : P (p.after requests) :=
  List.foldlRecOn requests ask h keeps

/-- The mixer is told the level with every setting, if there is a mixer, and at no other time. -/
theorem levels_ask (p : Playback) (request : Request) :
    (p.ask request).levels = p.levels ∧ (p.ask request).speaker.level = p.speaker.level ∨
      (p.ask request).levels =
        p.levels ++ if p.speaker.audible then [(p.ask request).speaker.level] else [] := by
  have hsplit : (p.ask request).levels =
      p.levels ++ (p.speaker.answer request).2.filterMap DeviceCall.level? := List.filterMap_append
  by_cases hsetting : request.IsSetting
  · refine Or.inr ?_
    rw [hsplit, p.speaker.answer_levels_of_setting request hsetting]
    rfl
  · obtain ⟨hnone, hlevel⟩ := p.speaker.answer_levels_of_not_setting request hsetting
    refine Or.inl ⟨?_, hlevel⟩
    rw [hsplit, hnone, List.append_nil]

/-- What some requests set and the others leave alone is what was set last, and what it was at first
as long as it was not set. -/
theorem last_after {α : Type} {part : Speaker → α} {set? : Request → Option α}
    (hanswer : ∀ (s : Speaker) request, part (s.answer request).1 = (set? request).getD (part s))
    (requests : List Request) (p : Playback) :
    part (p.after requests).speaker = (requests.filterMap set?).getLastD (part p.speaker) := by
  induction requests generalizing p with
  | nil => rfl
  | cons request rest ih =>
      have hpart : part (p.ask request).speaker = (set? request).getD (part p.speaker) :=
        hanswer p.speaker request
      rw [after_cons, ih, hpart, List.filterMap_cons]
      cases set? request with
      | none => rfl
      | some value => rw [List.getLastD_cons]; rfl

/-- The volume is the one that was set last, and the first one as long as none was set. -/
theorem volume_after (requests : List Request) (p : Playback) :
    (p.after requests).speaker.volume =
      (requests.filterMap Request.volume?).getLastD p.speaker.volume :=
  last_after Speaker.answer_volume requests p

/-- The speaker is muted if it was last told to be. -/
theorem muted_after (requests : List Request) (p : Playback) :
    (p.after requests).speaker.muted =
      (requests.filterMap Request.muted?).getLastD p.speaker.muted :=
  last_after Speaker.answer_muted requests p

/-! ### Making a speaker -/

/-- What a new speaker is like. -/
structure New (volume : Binary64) (p : Playback) : Prop where
  given : p.speaker.volume = volume
  heard : p.speaker.muted = false
  silent : p.speaker.playing = false
  levels : p.levels = if p.speaker.audible then [volume] else []

theorem new_silent (volume : Binary64) {calls : List DeviceCall}
    (untold : calls.filterMap DeviceCall.level? = []) : New volume ⟨.silent volume, calls⟩ :=
  ⟨rfl, rfl, rfl, untold⟩

section

variable {mixer : Mixer} {volume : Binary64} {pitch : Amount} {calls : List DeviceCall}
  {speaker : Speaker}

/-- A mixer is opened, if it has to be, and then it is told the tone and the level of the new
speaker. -/
theorem audible?_eq (mixer : Mixer) (volume : Binary64) (pitch : Amount) :
    ∃ opening : List DeviceCall,
      (∀ call ∈ opening, call.OpensMixer) ∧
      ((∃ error, Speaker.audible? mixer volume pitch = (opening, .error error)) ∨
        ∃ wave, Speaker.audible? mixer volume pitch =
          (opening ++ [.loadTone wave, .toneVolume volume],
            .ok ⟨true, volume, false, false, 0⟩)) := by
  unfold Speaker.audible?
  cases mixer.current with
  | none =>
      refine ⟨[.openMixer Speaker.wantedFormat.rate Speaker.wantedFormat.size
        Speaker.wantedFormat.channels], by simp [DeviceCall.OpensMixer], ?_⟩
      dsimp only
      split
      · exact Or.inl ⟨_, rfl⟩
      · split
        · exact Or.inl ⟨_, rfl⟩
        · exact Or.inr ⟨_, rfl⟩
  | some format =>
      refine ⟨[], by simp, ?_⟩
      dsimp only
      split
      · exact Or.inl ⟨_, rfl⟩
      · split
        · exact Or.inl ⟨_, rfl⟩
        · exact Or.inr ⟨_, rfl⟩

/-- The speaker that the options ask for is silent, or it is at a mixer. -/
theorem speakerFor_ok {options : Options}
    (made : Session.speakerFor options mixer = (calls, .ok speaker)) :
    ∃ opening : List DeviceCall, (∀ call ∈ opening, call.OpensMixer) ∧
      (calls = opening ∧ speaker = .silent (options.volume.getD .zero) ∨
        ∃ wave, calls = opening ++ [.loadTone wave, .toneVolume (options.volume.getD .zero)] ∧
          speaker = ⟨true, options.volume.getD .zero, false, false, 0⟩) := by
  unfold Session.speakerFor at made
  dsimp only at made
  split at made
  · cases made
    exact ⟨[], by simp, Or.inl ⟨rfl, rfl⟩⟩
  · obtain ⟨opening, hopens, ⟨error, hfails⟩ | ⟨wave, hok⟩⟩ :=
      audible?_eq mixer (options.volume.getD .zero) (.whole SquareWave.standardPitch)
    · rw [hfails] at made
      cases error with
      | mixerRefused =>
          cases made
          exact ⟨calls, hopens, Or.inl ⟨rfl, rfl⟩⟩
      | wave error => cases made
    · rw [hok] at made
      dsimp only at made
      split at made
      · cases made
        exact ⟨opening, hopens, Or.inr ⟨wave, rfl, rfl⟩⟩
      · cases made

theorem new_audible? (made : Speaker.audible? mixer volume pitch = (calls, .ok speaker)) :
    New volume ⟨speaker, calls⟩ ∧ speaker.audible = true := by
  obtain ⟨opening, hopens, ⟨error, hfails⟩ | ⟨wave, hok⟩⟩ := audible?_eq mixer volume pitch
  · rw [hfails] at made
    cases made
  · rw [hok] at made
    cases made
    refine ⟨⟨rfl, rfl, rfl, ?_⟩, rfl⟩
    show (opening ++ _).filterMap DeviceCall.level? = [volume]
    rw [List.filterMap_append, DeviceCall.filterMap_opening (fun _ _ _ => rfl) hopens]
    rfl

end

end Playback

end ChipEight
