/-
The range of volumes.

Whoever sets the volume of a speaker has it brought into the range from zero to one, and what the
mixer is told is then in that range as well.  Whoever makes a speaker has not: the volume that it is
given, on the command line or otherwise, is taken as it is and handed to the mixer.  So the range is
kept if and only if it was kept at the beginning, and in any case from the first time that the
volume is set.
-/
import ChipEight.Proofs.Playback

namespace ChipEight

/-! ### Numbers in the range -/

namespace Binary64

theorem lt_iff {x y : Binary64} :
    x < y ↔ x.isNaN = false ∧ y.isNaN = false ∧ x.key < y.key := by
  show x.less y = true ↔ _
  simp [less, and_assoc]

/-- The number lies in the range from zero to one. -/
def WithinUnit (x : Binary64) : Prop := x.isNaN = false ∧ ¬ x < .zero ∧ ¬ .one < x

instance (x : Binary64) : Decidable x.WithinUnit := inferInstanceAs (Decidable (_ ∧ _ ∧ _))

theorem withinUnit_zero : zero.WithinUnit := by decide

theorem withinUnit_one : one.WithinUnit := by decide

end Binary64

open Binary64 in
theorem Amount.withinUnit_clamped (volume : Amount) : volume.clamped.WithinUnit := by
  cases volume with
  | whole n =>
      rw [clamped]
      split
      · exact withinUnit_zero
      · exact withinUnit_one
  | real x =>
      rw [clamped]
      split
      · rename_i hbelow
        split
        · rename_i habove
          rw [lt_iff] at hbelow habove
          refine ⟨hbelow.1, ?_, ?_⟩
          · rw [lt_iff]
            omega
          · rw [lt_iff]
            omega
        · exact withinUnit_zero
      · exact withinUnit_one

namespace Playback

open Speaker (Request)

theorem withinUnit_of_volume? {request : Request} {volume : Binary64}
    (h : request.volume? = some volume) : volume.WithinUnit := by
  cases request with
  | setVolume amount =>
      cases h
      exact amount.withinUnit_clamped
  | _ => cases h

/-! ### Making a speaker -/

/-- A speaker was made with a volume: a silent one, one at a mixer, or the one that the options of
a command line ask for. -/
inductive Made (volume : Binary64) : Playback → Prop
  | silent : Made volume ⟨.silent volume, []⟩
  | audible {mixer : Mixer} {pitch : Amount} {calls : List DeviceCall} {speaker : Speaker}
      (made : Speaker.audible? mixer volume pitch = (calls, .ok speaker)) :
      Made volume ⟨speaker, calls⟩
  | chosen {options : Options} {mixer : Mixer} {calls : List DeviceCall} {speaker : Speaker}
      (given : options.volume = some volume)
      (made : Session.speakerFor options mixer = (calls, .ok speaker)) :
      Made volume ⟨speaker, calls⟩

/-- The speaker that the options ask for has the volume that they give. -/
theorem new_speakerFor {options : Options} {mixer : Mixer} {volume : Binary64}
    {calls : List DeviceCall} {speaker : Speaker} (given : options.volume = some volume)
    (made : Session.speakerFor options mixer = (calls, .ok speaker)) :
    New volume ⟨speaker, calls⟩ := by
  obtain ⟨opening, hopens, hmade⟩ := speakerFor_ok made
  have huntold : opening.filterMap DeviceCall.level? = [] :=
    DeviceCall.filterMap_opening (fun _ _ _ => rfl) hopens
  rw [given] at hmade
  rcases hmade with ⟨rfl, rfl⟩ | ⟨wave, rfl, rfl⟩
  · exact new_silent volume huntold
  · refine ⟨rfl, rfl, rfl, ?_⟩
    show (opening ++ _).filterMap DeviceCall.level? = [volume]
    rw [List.filterMap_append, huntold]
    rfl

theorem Made.new {volume : Binary64} {p : Playback} (made : Made volume p) : New volume p := by
  cases made with
  | silent => exact new_silent volume rfl
  | audible made => exact (new_audible? made).1
  | chosen given made => exact new_speakerFor given made

/-! ### The range of all volumes and levels -/

/-- The volume and all levels that the mixer was told lie in the range. -/
def InRange (p : Playback) : Prop :=
  p.speaker.volume.WithinUnit ∧ ∀ level ∈ p.levels, level.WithinUnit

/-- Whatever lies outside of the range is the volume that the speaker was made with. -/
structure Strays (volume : Binary64) (p : Playback) : Prop where
  current : p.speaker.volume.WithinUnit ∨ p.speaker.volume = volume
  told : ∀ level ∈ p.levels, level.WithinUnit ∨ level = volume

variable {volume : Binary64} {p : Playback}

theorem New.strays (h : New volume p) : Strays volume p := by
  refine ⟨Or.inr h.given, ?_⟩
  rw [h.levels]
  intro level hlevel
  split at hlevel
  · exact Or.inr (List.mem_singleton.1 hlevel)
  · cases hlevel

theorem Strays.ask (h : Strays volume p) (request : Request) : Strays volume (p.ask request) := by
  have hvolume : (p.ask request).speaker.volume.WithinUnit ∨
      (p.ask request).speaker.volume = volume := by
    have hanswer : (p.ask request).speaker.volume = request.volume?.getD p.speaker.volume :=
      p.speaker.answer_volume request
    rw [hanswer]
    cases hset : request.volume? with
    | none => exact h.current
    | some set => exact Or.inl (withinUnit_of_volume? hset)
  have hlevel : (p.ask request).speaker.level.WithinUnit ∨
      (p.ask request).speaker.level = volume := by
    rw [Speaker.level]
    split
    · exact Or.inl Binary64.withinUnit_zero
    · exact hvolume
  refine ⟨hvolume, ?_⟩
  intro level hmember
  rcases p.levels_ask request with ⟨hsame, -⟩ | htold
  · exact h.told level (hsame ▸ hmember)
  · rw [htold, List.mem_append] at hmember
    rcases hmember with hold | hnew
    · exact h.told level hold
    · split at hnew
      · rw [List.mem_singleton.1 hnew]
        exact hlevel
      · cases hnew

theorem Strays.after (h : Strays volume p) (requests : List Request) :
    Strays volume (p.after requests) :=
  after_induction h fun _ hq request _ => hq.ask request

theorem Strays.inRange (h : Strays volume p) (hwithin : volume.WithinUnit) : p.InRange :=
  ⟨h.current.elim id fun heq => heq ▸ hwithin,
    fun level hlevel => (h.told level hlevel).elim id fun heq => heq ▸ hwithin⟩

/-- **When the volume keeps its range.**  Whatever a speaker is asked for, its volume is the one
that was set last, brought into the range from zero to one, and as long as none was set it is the
one that the speaker was made with, on the command line or otherwise, which nobody brought into the
range.  Every other level that the mixer is told lies in the range.  So all volumes and levels do if
and only if that first volume does. -/
theorem volume_in_range_iff (made : Made volume p) :
    (∀ requests : List Request,
      (p.after requests).speaker.volume =
          (requests.filterMap Request.volume?).getLastD volume ∧
        ((∃ amount, Request.setVolume amount ∈ requests) →
          (p.after requests).speaker.volume.WithinUnit) ∧
        ∀ level, .toneVolume level ∈ (p.after requests).calls →
          level.WithinUnit ∨ level = volume) ∧
    ((∀ requests : List Request,
        (p.after requests).speaker.volume.WithinUnit ∧
          ∀ level, .toneVolume level ∈ (p.after requests).calls → level.WithinUnit) ↔
      volume.WithinUnit) := by
  have hnew := made.new
  have hlevels : ∀ {q : Playback} {level}, .toneVolume level ∈ q.calls → level ∈ q.levels :=
    fun hcall => List.mem_filterMap.2 ⟨_, hcall, rfl⟩
  refine ⟨?_, ?_, ?_⟩
  · intro requests
    have hvolume := volume_after requests p
    rw [hnew.given] at hvolume
    refine ⟨hvolume, ?_, fun level hcall => (hnew.strays.after requests).told level (hlevels hcall)⟩
    rintro ⟨amount, hset⟩
    have hsome : requests.filterMap Request.volume? ≠ [] :=
      List.ne_nil_of_mem (List.mem_filterMap.2 ⟨_, hset, rfl⟩)
    rw [hvolume, List.getLastD_eq_getLast?, List.getLast?_eq_some_getLast hsome]
    obtain ⟨request, -, hrequest⟩ := List.mem_filterMap.1 (List.getLast_mem hsome)
    exact withinUnit_of_volume? hrequest
  · intro hkept
    have hfirst := (hkept []).1
    rwa [← hnew.given]
  · intro hwithin requests
    obtain ⟨hvolume, htold⟩ := (hnew.strays.after requests).inRange hwithin
    exact ⟨hvolume, fun level hcall => htold level (hlevels hcall)⟩

/-- A volume of seven is brought down to one, and a silent speaker is heard as loud as before. -/
theorem volume_in_range_silent :
    Made Speaker.standardVolume ⟨.silent Speaker.standardVolume, []⟩ ∧
      (Playback.after ⟨.silent Speaker.standardVolume, []⟩
        [.setVolume (.whole 7), .mute, .play 3, .unmute]).speaker.volume = .one ∧
      ∀ requests, (Playback.after ⟨.silent Speaker.standardVolume, []⟩
        requests).speaker.volume.WithinUnit := by
  have made : Made Speaker.standardVolume ⟨.silent Speaker.standardVolume, []⟩ := .silent
  obtain ⟨hvolumes, hrange⟩ := volume_in_range_iff made
  have hseven := (hvolumes [.setVolume (.whole 7), .mute, .play 3, .unmute]).1
  exact ⟨made, hseven, fun requests => (hrange.2 (by decide) requests).1⟩

/-- Twice the greatest volume. -/
def double : Binary64 := ⟨0x4000000000000000⟩

/-- **A volume that is too great is taken.**  The command line accepts it, the speaker has it, and
the mixer is told it. -/
theorem double_out_of_range :
    ∃ options calls speaker, Options.ofArguments ["--volume", "2", "pong"] = .ok options ∧
      Session.speakerFor options {} = (calls, .ok speaker) ∧
      ¬ speaker.volume.WithinUnit ∧ .toneVolume double ∈ calls ∧ ¬ double.WithinUnit := by
  have haccepts : (Options.ofArguments ["--volume", "2", "pong"]).toOption =
      some { Options.standard with rom := "pong", volume := some double } := by decide +kernel
  have hoptions : Options.ofArguments ["--volume", "2", "pong"] =
      .ok { Options.standard with rom := "pong", volume := some double } := by
    cases hread : Options.ofArguments ["--volume", "2", "pong"] with
    | error error => rw [hread] at haccepts; cases haccepts
    | ok options => rw [hread] at haccepts; cases haccepts; rfl
  have hspeaker : Session.speakerFor
      { Options.standard with rom := "pong", volume := some double } {} =
      ([.openMixer 44100 (-16) 1, .loadTone ⟨44100, 1, 90⟩, .toneVolume double],
        .ok ⟨true, double, false, false, 0⟩) := rfl
  have hdouble : ¬ double.WithinUnit := by decide
  exact ⟨_, _, _, hoptions, hspeaker, hdouble, by simp, hdouble⟩

end Playback

end ChipEight
