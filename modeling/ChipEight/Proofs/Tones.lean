/-
The tones of a program.

Nothing but the instruction that sets the sound timer starts a tone, and it does so if the value is
not zero.  A tone that sounds already is stopped first, as far as the speaker knows: nobody tells it
that the mixer ended one in time.  A reset stops the tone as well, and then there is nothing to be
stopped before the next one.  So the invariant is about what the speaker believes: where it takes
the tone to be silent, the mixer was told to stop it after the last time that it was told to play
(`Disciplined`).

What a console asks its speaker for in an operation is `requests`, and `playback?_apply` says that
this is all that the speaker answers, and that besides its answers only the pictures of the frames
are in the log.
-/
import ChipEight.Proofs.Playback
import ChipEight.Proofs.Showing

namespace ChipEight

open Speaker (Request)

theorem Execution.tone?_pos {e : Execution} {ticks : UInt8} (h : e.tone? = some ticks) :
    0 < ticks.toNat := by
  have hnonzero : ticks ≠ 0 := by
    unfold tone? at h
    split at h
    · split at h
      · cases h
      · rename_i x hx
        cases h
        exact hx
    · cases h
  exact Nat.pos_of_ne_zero fun hzero => hnonzero (UInt8.toNat_inj.1 hzero)

/-! ### What a machine has its speaker do -/

namespace Machine

/-- The speaker of a machine, if it has one, with what the devices were asked for so far. -/
def playback? (m : Machine) : Option Playback := m.speaker.map fun s => ⟨s, m.log.toList⟩

theorem playback?_eq_some {m : Machine} {p : Playback} :
    m.playback? = some p ↔ m.speaker = some p.speaker ∧ m.log.toList = p.calls := by
  cases p with
  | mk s calls => simp [playback?, and_comm]

theorem playback?_request (m : Machine) (calls : List DeviceCall) :
    (m.request calls).playback? = m.playback?.map (·.note calls) := by
  cases m with
  | mk cpu memory screen keypad speaker stackDepth random log =>
      cases speaker with
      | none => rfl
      | some s => simp [playback?, request, Playback.note]

theorem playback?_onSpeaker (m : Machine) (request : Request) :
    (m.onSpeaker (·.answer request)).playback? = m.playback?.map (·.ask request) := by
  cases m with
  | mk cpu memory screen keypad speaker stackDepth random log =>
      cases speaker with
      | none => rfl
      | some s => simp [playback?, onSpeaker, Machine.request, Playback.ask]

/-- The speaker, if there is one, is asked to play for so many ticks. -/
def chimed (p : Option Playback) (ticks : UInt8) : Option Playback :=
  p.map (·.ask (.play ticks.toNat))

/-- What an instruction makes of a playback. -/
def heard (p : Option Playback) (e : Execution) : Option Playback := e.tone?.elim p (chimed p)

theorem heard_eq (p : Option Playback) (e : Execution) :
    heard p e = e.tone?.elim p (chimed p) := rfl

theorem follows_playback? : Follows playback? heard := by
  refine follows_tones chimed ?_ ?_ heard_eq
  · intro m m' hspeaker hlog
    rw [playback?, playback?, hspeaker, hlog]
  · intro m ticks
    exact playback?_onSpeaker m (.play ticks.toNat)

theorem foldl_chimed (tones : List UInt8) (p : Option Playback) :
    tones.foldl chimed p = p.map (·.after (tones.map fun ticks => .play ticks.toNat)) := by
  induction tones generalizing p with
  | nil => simp [Playback.after]
  | cons ticks rest ih =>
      rw [List.foldl_cons, ih, chimed, Option.map_map]
      rfl

end Machine

namespace Console

open Machine

variable {settings : Settings} {c : Console}

/-- The tones of the next frame, by their ticks. -/
def tones (c : Console) : List UInt8 := c.executions.filterMap Execution.tone?

/-- What the speaker is asked for in an operation. -/
def requests (c : Console) : Operation → List Request
  | .load _ => [.stop]
  | .reset => [.stop]
  | .mute => [.mute]
  | .unmute => [.unmute]
  | .setVolume volume => [.setVolume volume]
  | .tick => c.tones.map fun ticks => .play ticks.toNat
  | _ => []

/-- What an operation has the display show. -/
def painted (c : Console) : Operation → List DeviceCall
  | .tick => (c.display.draw c.handed).2
  | _ => []

theorem playback?_pollKeys (m : Machine) : (pollKeys m).playback? = m.playback? := by
  simp only [pollKeys]
  split <;> rfl

theorem playback?_render (c : Console) :
    c.render.machine.playback? =
      c.machine.playback?.map (·.note (c.display.draw c.machine.screen.changes).2) :=
  playback?_request _ _

theorem playback?_tick (h : c.WellFormed settings) :
    c.tick.1.machine.playback? =
      c.machine.playback?.map fun p => (p.after (c.requests .tick)).note (c.painted .tick) := by
  obtain ⟨d, hworked, hdisplay, htick⟩ := tick_eq h
  have hheard : d.machine.playback? = c.machine.playback?.map (·.after (c.requests .tick)) := by
    rw [hworked, follows_worked follows_playback? playback?_pollKeys,
      foldl_tones heard_eq, foldl_chimed]
    rfl
  have hshown : (if c.executing then d.render else d).machine.playback? =
      d.machine.playback?.map (·.note (c.painted .tick)) := by
    by_cases hexecuting : c.executing = true
    · have hhanded : c.handed = d.machine.screen.changes := by
        rw [handed, hworked, worked, if_pos hexecuting, if_pos hexecuting]
      rw [if_pos hexecuting, playback?_render, painted, hhanded, hdisplay]
    · have hhanded : c.handed = [] := by rw [handed, if_neg hexecuting]
      have hnothing : c.painted .tick = [] := by
        rw [painted, hhanded]
        rfl
      simp only [if_neg hexecuting, hnothing, Playback.note_nil, Option.map_id_fun', id]
  have hends : c.tick.1.machine.playback? =
      (if c.executing then d.render else d).machine.playback? := by
    rw [htick]
    cases c.completes <;> rfl
  rw [hends, hshown, hheard, Option.map_map]
  rfl

theorem playback?_reset (h : c.WellFormed settings) :
    c.reset.1.machine.playback? = c.machine.playback?.map (·.ask .stop) := by
  rw [h.reset_eq]
  exact playback?_onSpeaker _ .stop

theorem playback?_load (h : c.WellFormed settings) (program : List UInt8) :
    (c.load program).1.machine.playback? = c.machine.playback?.map (·.ask .stop) := by
  rw [h.load_eq]
  split <;> exact playback?_reset h

/-- Switching a console on ends with a reset. -/
theorem playback?_poweredOn {speaker : Speaker} {display : Display} {random : RandomSource}
    {log : List DeviceCall} (on : poweredOn? settings speaker display random log = .ok c) :
    c.machine.playback? = some (Playback.ask ⟨speaker, log⟩ .stop) := by
  obtain ⟨memory, interval, hwell, hreset⟩ := poweredOn?_reset on
  have hplayback := playback?_reset hwell
  have hunreset : (unreset settings memory interval speaker display random log).machine.playback? =
      some ⟨speaker, log⟩ := by
    simp [unreset, playback?, Machine.request, poweredOn]
  rwa [hreset, hunreset] at hplayback

/-- The answers of the speaker are all that an operation adds to the log, and for a frame what it
has the display show. -/
theorem playback?_apply (h : c.WellFormed settings) (operation : Operation) :
    (c.apply operation).machine.playback? =
      c.machine.playback?.map fun p =>
        (p.after (c.requests operation)).note (c.painted operation) := by
  have hquiet : ∀ requests, c.machine.playback?.map (·.after requests) =
      c.machine.playback?.map fun p => (p.after requests).note [] := by
    intro requests
    simp only [Playback.note_nil]
  have hnothing : c.machine.playback? = c.machine.playback?.map (·.after []) := by
    cases c.machine.playback? <;> rfl
  cases operation with
  | load program => exact (playback?_load h program).trans (hquiet [.stop])
  | reset => exact (playback?_reset h).trans (hquiet [.stop])
  | press key => exact hnothing.trans (hquiet [])
  | release key => exact hnothing.trans (hquiet [])
  | mute => exact (playback?_onSpeaker _ .mute).trans (hquiet [.mute])
  | unmute => exact (playback?_onSpeaker _ .unmute).trans (hquiet [.unmute])
  | setVolume volume =>
      exact (playback?_onSpeaker _ (.setVolume volume)).trans (hquiet [.setVolume volume])
  | tick => exact playback?_tick h

end Console

/-! ### One tone at a time -/

namespace DeviceCall

/-- How often the tone is to be repeated and how long it may last, if the call starts it. -/
def played? : DeviceCall → Option (Int × Int)
  | .playTone loops maxTime => some (loops, maxTime)
  | _ => none

theorem played?_eq_some {call : DeviceCall} {loops maxTime : Int}
    (h : call.played? = some (loops, maxTime)) : call = .playTone loops maxTime := by
  cases call with
  | playTone =>
      cases h
      rfl
  | _ => cases h

/-- The call has to do with the tone. -/
def OfTone : DeviceCall → Prop
  | .toneVolume _ => True
  | .playTone _ _ => True
  | .stopTone => True
  | _ => False

/-- Whether the tone was started and not stopped, where it may have been at the beginning. -/
def sounding (on : Bool) : List DeviceCall → Bool
  | [] => on
  | .playTone _ _ :: rest => sounding true rest
  | .stopTone :: rest => sounding false rest
  | _ :: rest => sounding on rest

/-- The tone is never started again before it was stopped. -/
def OneAtATime (on : Bool) : List DeviceCall → Prop
  | [] => True
  | .playTone _ _ :: rest => on = false ∧ OneAtATime true rest
  | .stopTone :: rest => OneAtATime false rest
  | _ :: rest => OneAtATime on rest

variable {on : Bool} {calls : List DeviceCall}

theorem sounding_append (on : Bool) (earlier later : List DeviceCall) :
    sounding on (earlier ++ later) = sounding (sounding on earlier) later := by
  induction earlier generalizing on with
  | nil => rfl
  | cons call rest ih => cases call <;> exact ih _

theorem oneAtATime_append (earlier later : List DeviceCall) :
    OneAtATime on (earlier ++ later) ↔
      OneAtATime on earlier ∧ OneAtATime (sounding on earlier) later := by
  induction earlier generalizing on with
  | nil => simp [OneAtATime, sounding]
  | cons call rest ih =>
      cases call with
      | playTone loops maxTime =>
          show on = false ∧ OneAtATime true (rest ++ later) ↔ _
          rw [ih, ← and_assoc]
          rfl
      | _ => exact ih

theorem sounding_of_not_stopped (h : .stopTone ∉ calls) : sounding true calls = true := by
  induction calls with
  | nil => rfl
  | cons call rest ih =>
      have hrest := ih fun hmember => h (List.mem_cons_of_mem _ hmember)
      cases call with
      | stopTone => exact absurd (List.mem_cons_self ..) h
      | _ => exact hrest

/-- Between two starts of the tone there is a stop. -/
theorem OneAtATime.stopped_between {before between later : List DeviceCall}
    {loops loops' maxTime maxTime' : Int}
    (h : OneAtATime on
      (before ++ .playTone loops maxTime :: between ++ .playTone loops' maxTime' :: later)) :
    .stopTone ∈ between := by
  rw [oneAtATime_append, sounding_append] at h
  by_contra hnever
  have hsounds : sounding true between = false := h.2.1
  rw [sounding_of_not_stopped hnever] at hsounds
  cases hsounds

/-- Calls that have nothing to do with the tone do not matter to it. -/
theorem silent_of_not_ofTone (h : ∀ call ∈ calls, ¬ call.OfTone) :
    calls.filterMap played? = [] ∧ calls.filterMap level? = [] ∧
      (∀ on, OneAtATime on calls) ∧ ∀ on, sounding on calls = on := by
  induction calls with
  | nil => exact ⟨rfl, rfl, fun _ => trivial, fun _ => rfl⟩
  | cons call rest ih =>
      have hcall := h call (List.mem_cons_self ..)
      have hrest := ih fun other hother => h other (List.mem_cons_of_mem _ hother)
      cases call with
      | toneVolume level => exact absurd trivial hcall
      | playTone loops maxTime => exact absurd trivial hcall
      | stopTone => exact absurd trivial hcall
      | _ => exact hrest

end DeviceCall

/-- The call paints something on a window that is open, or shows what was painted. -/
def DeviceCall.Paints : DeviceCall → Prop
  | .rect .. => True
  | .flip => True
  | _ => False

theorem Window.paints_of_mem_squares {w : Window} {paint : Paint} :
    ∀ call ∈ (w.squares paint).1, call.Paints := by
  induction paint with
  | nil => intro call hcall; cases hcall
  | cons change rest ih =>
      intro call hcall
      rw [squares] at hcall
      split at hcall
      · cases hcall
      · rcases List.mem_cons.1 hcall with rfl | hrest
        · trivial
        · exact ih call hrest

/-- A display paints, and opens its window if it is not open yet. -/
theorem Display.paints_or_opens {d : Display} {paint : Paint} {call : DeviceCall}
    (h : call ∈ (d.draw paint).2) :
    call.Paints ∨ ∃ w, d = .window w ∧ w.isOpen = false ∧ call ∈ w.opened.2 := by
  unfold Display.draw at h
  split at h
  · cases h
  · cases d with
    | off => cases h
    | recording r => cases h
    | window w =>
        have hflip : ∀ complete : Bool, call ∈ (if complete then [DeviceCall.flip] else []) →
            call.Paints := by
          intro complete hflip
          split at hflip
          · rw [List.mem_singleton.1 hflip]
            trivial
          · cases hflip
        dsimp only [Window.draw] at h
        rcases List.mem_append.1 h with hearlier | hlast
        · rcases List.mem_append.1 hearlier with hopening | hsquares
          · split at hopening
            · cases hopening
            · rename_i hclosed
              exact Or.inr ⟨w, rfl, eq_false_of_ne_true hclosed, hopening⟩
          · exact Or.inl (Window.paints_of_mem_squares call hsquares)
        · exact Or.inl (hflip _ hlast)

/-- A display has nothing to do with the tone. -/
theorem Display.not_ofTone_draw (d : Display) (paint : Paint) :
    ∀ call ∈ (d.draw paint).2, ¬ call.OfTone := by
  intro call hcall
  rcases paints_or_opens hcall with hpaints | ⟨w, -, -, hopening⟩
  · cases call with
    | rect colour x y width height => exact id
    | flip => exact id
    | _ => cases hpaints
  · have hopened : ∀ call ∈ w.opened.2, ¬ call.OfTone := by
      simp [Window.opened, DeviceCall.OfTone]
    exact hopened call hopening

/-! ### What the mixer is told -/

namespace Playback

open DeviceCall

/-- A tick is fifty thirds of a millisecond, and a fraction of one is cut off. -/
theorem milliseconds_byte (ticks : UInt8) :
    Speaker.milliseconds ticks.toNat = .ok ((ticks.toNat * 50 / 3 : Nat) : Int) := by
  have byte_toOption : ∀ n < 256, (Speaker.milliseconds (n : Nat)).toOption =
      some ((n * 50 / 3 : Nat) : Int) := by decide +kernel
  have htime := byte_toOption ticks.toNat ticks.toNat_lt
  cases hms : Speaker.milliseconds ticks.toNat with
  | error error => rw [hms] at htime; cases htime
  | ok time => rw [hms] at htime; cases htime; rfl

/-- The mixer repeats a tone without end, and ends it when its ticks are over. -/
def toneOf (ticks : UInt8) : Int × Int := (-1, ((ticks.toNat * 50 / 3 : Nat) : Int))

/-- What the mixer was told after the first calls: the tones with these ticks, one at a time, and
the last of them was stopped if the speaker takes the tone to be silent. -/
def TellsTones (first : List DeviceCall) (tones : List UInt8) (playing : Bool)
    (calls : List DeviceCall) : Prop :=
  ∃ later, calls = first ++ later ∧ later.filterMap played? = tones.map toneOf ∧
    OneAtATime false later ∧ (playing = false → sounding false later = false)

theorem TellsTones.append {first calls new : List DeviceCall} {tones more : List UInt8}
    {playing playing' : Bool} (h : TellsTones first tones playing calls)
    (played : new.filterMap played? = more.map toneOf)
    (once : ∀ on, (playing = false → on = false) → OneAtATime on new)
    (stopped : ∀ on, (playing = false → on = false) → playing' = false → sounding on new = false) :
    TellsTones first (tones ++ more) playing' (calls ++ new) := by
  obtain ⟨later, hcalls, hplayed, honce, hstopped⟩ := h
  refine ⟨later ++ new, ?_, ?_, ?_, ?_⟩
  · rw [hcalls, List.append_assoc]
  · rw [List.filterMap_append, hplayed, played, List.map_append]
  · exact (oneAtATime_append later new).2 ⟨honce, once _ hstopped⟩
  · rw [sounding_append]
    exact stopped _ hstopped

/-- Calls that start no tone, and say no more of it than the speaker does. -/
theorem TellsTones.append_unplayed {first calls new : List DeviceCall} {tones : List UInt8}
    {playing playing' : Bool} (h : TellsTones first tones playing calls)
    (unplayed : new.filterMap played? = []) (once : ∀ on, OneAtATime on new)
    (stopped : ∀ on, (playing = false → on = false) → playing' = false → sounding on new = false) :
    TellsTones first tones playing' (calls ++ new) := by
  have happended : TellsTones first (tones ++ []) playing' (calls ++ new) :=
    h.append unplayed (fun on _ => once on) stopped
  rwa [List.append_nil] at happended

/-- What the mixer was told, of the tones and of how loud they are to be. -/
structure Disciplined (first : List DeviceCall) (tones : List UInt8) (p : Playback) : Prop where
  audible : p.speaker.audible = true
  tells : TellsTones first tones p.speaker.playing p.calls
  level : p.levels.getLast? = some p.speaker.level

variable {first : List DeviceCall} {tones : List UInt8} {p : Playback}

/-- What is left to be shown of a request is what it tells of tones. -/
theorem Disciplined.ask (h : p.Disciplined first tones) {request : Request} {all : List UInt8}
    (tells : TellsTones first all (p.ask request).speaker.playing (p.ask request).calls) :
    (p.ask request).Disciplined first all where
  audible := (p.speaker.answer_audible request).trans h.audible
  tells := tells
  level := by
    rcases p.levels_ask request with ⟨hlevels, hsame⟩ | htold
    · rw [hlevels, hsame, h.level]
    · rw [htold, if_pos h.audible, List.getLast?_concat]

theorem Disciplined.play (h : p.Disciplined first tones) (ticks : UInt8) :
    (p.ask (.play ticks.toNat)).Disciplined first (tones ++ [ticks]) := by
  have hanswer : (p.speaker.answer (.play ticks.toNat)).2 =
      (if p.speaker.playing then [.stopTone] else []) ++
        [.playTone (-1) ((ticks.toNat * 50 / 3 : Nat) : Int)] := by
    show (p.speaker.play ticks.toNat).2.1 = _
    rw [Speaker.play_calls, if_pos h.audible, milliseconds_byte]
  have hplays : (p.ask (.play ticks.toNat)).speaker.playing = true := by
    show (p.speaker.play ticks.toNat).1.playing = true
    rw [Speaker.play_speaker]
  refine h.ask (h.tells.append ?_ ?_ ?_)
  · rw [hanswer]
    split <;> rfl
  · intro on hon
    rw [hanswer]
    cases hplaying : p.speaker.playing with
    | true => exact ⟨rfl, trivial⟩
    | false => exact ⟨hon hplaying, trivial⟩
  · intro on _ hsilent
    rw [hplays] at hsilent
    cases hsilent

theorem Disciplined.plays (ticks : List UInt8) :
    ∀ {tones : List UInt8} {p : Playback}, p.Disciplined first tones →
      (p.after (ticks.map fun n => .play n.toNat)).Disciplined first (tones ++ ticks) := by
  induction ticks with
  | nil => intro tones p h; rwa [List.append_nil]
  | cons n rest ih =>
      intro tones p h
      have hrest := ih (h.play n)
      rwa [List.append_assoc] at hrest

theorem Disciplined.stop (h : p.Disciplined first tones) :
    (p.ask .stop).Disciplined first tones := by
  have hanswer : (p.speaker.answer .stop).2 = [.stopTone] := if_pos h.audible
  refine h.ask (h.tells.append_unplayed ?_ ?_ ?_)
  · rw [hanswer]
    rfl
  · intro on
    rw [hanswer]
    trivial
  · intro on _ _
    rw [hanswer]
    rfl

/-- A setting tells the mixer a level and nothing else. -/
theorem Disciplined.setting (h : p.Disciplined first tones) {request : Request}
    (hsetting : request.IsSetting) : (p.ask request).Disciplined first tones := by
  obtain ⟨level, hanswer, hplaying⟩ : ∃ level,
      (p.speaker.answer request).2 = [.toneVolume level] ∧
        (p.ask request).speaker.playing = p.speaker.playing := by
    cases request with
    | play ticks => cases hsetting
    | stop => cases hsetting
    | mute => exact ⟨_, if_pos h.audible, rfl⟩
    | unmute => exact ⟨_, if_pos h.audible, rfl⟩
    | setVolume volume => exact ⟨_, if_pos h.audible, rfl⟩
  refine h.ask (h.tells.append_unplayed ?_ ?_ ?_)
  · rw [hanswer]
    rfl
  · intro on
    rw [hanswer]
    trivial
  · intro on hon hsilent
    rw [hanswer]
    exact hon (hplaying ▸ hsilent)

/-- Calls to other devices tell the mixer nothing. -/
theorem Disciplined.note (h : p.Disciplined first tones) {calls : List DeviceCall}
    (hsilent : ∀ call ∈ calls, ¬ call.OfTone) : (p.note calls).Disciplined first tones := by
  obtain ⟨hplayed, hlevels, hapart, hsounding⟩ := silent_of_not_ofTone hsilent
  refine ⟨h.audible, ?_, ?_⟩
  · refine h.tells.append_unplayed hplayed hapart ?_
    intro on hon hplaying
    rw [hsounding]
    exact hon hplaying
  · show ((p.calls ++ calls).filterMap level?).getLast? = _
    rw [List.filterMap_append, hlevels, List.append_nil]
    exact h.level

end Playback

/-! ### The life of a console -/

namespace Console

open Machine Playback

variable {settings : Settings} {c : Console} {first : List DeviceCall} {tones : List UInt8}

/-- The tones of a row of operations, by their ticks: the values that the instruction that sets the
sound timer found in its register, where they were not zero. -/
def tonesOf (c : Console) : List Operation → List UInt8
  | [] => []
  | operation :: rest =>
    (if operation = .tick then c.tones else []) ++ (c.apply operation).tonesOf rest

theorem disciplined_apply (h : c.WellFormed settings) {p : Playback}
    (hp : c.machine.playback? = some p) (hdisciplined : p.Disciplined first tones)
    (operation : Operation) :
    ∃ q, (c.apply operation).machine.playback? = some q ∧
      q.Disciplined first (tones ++ if operation = .tick then c.tones else []) := by
  have hasked : (p.after (c.requests operation)).Disciplined first
      (tones ++ if operation = .tick then c.tones else []) := by
    have hnone : ∀ {q : Playback}, q.Disciplined first tones →
        q.Disciplined first (tones ++ []) := by
      intro q hq
      rwa [List.append_nil]
    cases operation with
    | tick => exact hdisciplined.plays c.tones
    | load program => exact hnone hdisciplined.stop
    | reset => exact hnone hdisciplined.stop
    | press key => exact hnone hdisciplined
    | release key => exact hnone hdisciplined
    | mute => exact hnone (hdisciplined.setting trivial)
    | unmute => exact hnone (hdisciplined.setting trivial)
    | setVolume volume => exact hnone (hdisciplined.setting trivial)
  have hpainted : ∀ call ∈ c.painted operation, ¬ call.OfTone := by
    cases operation with
    | tick => exact c.display.not_ofTone_draw c.handed
    | _ => simp [painted]
  refine ⟨_, ?_, hasked.note hpainted⟩
  rw [playback?_apply h, hp]
  rfl

theorem disciplined_after (operations : List Operation) :
    ∀ {c : Console} {tones : List UInt8} {p : Playback}, c.WellFormed settings →
      c.machine.playback? = some p → p.Disciplined first tones →
      ∃ q, (c.after operations).machine.playback? = some q ∧
        q.Disciplined first (tones ++ c.tonesOf operations) := by
  induction operations with
  | nil =>
      intro c tones p _ hp hdisciplined
      refine ⟨p, hp, ?_⟩
      rwa [tonesOf, List.append_nil]
  | cons operation rest ih =>
      intro c tones p h hp hdisciplined
      obtain ⟨q, hq, hnext⟩ := disciplined_apply h hp hdisciplined operation
      obtain ⟨r, hr, hlast⟩ := ih (h.apply operation) hq hnext
      rw [List.append_assoc] at hlast
      exact ⟨r, hr, hlast⟩

/-- No tone has no ticks. -/
theorem pos_of_mem_tonesOf (operations : List Operation) :
    ∀ {c : Console}, ∀ ticks ∈ c.tonesOf operations, 0 < ticks.toNat := by
  induction operations with
  | nil => intro c ticks hticks; cases hticks
  | cons operation rest ih =>
      intro c ticks hticks
      rw [tonesOf, List.mem_append] at hticks
      rcases hticks with hhere | hlater
      · split at hhere
        · obtain ⟨e, -, he⟩ := List.mem_filterMap.1 hhere
          exact Execution.tone?_pos he
        · cases hhere
      · exact ih ticks hlater

/-- A console that was just switched on has stopped its tone, and the mixer knows its level. -/
theorem disciplined_poweredOn {mixer : Mixer} {volume : Binary64} {pitch : Amount}
    {earlier made : List DeviceCall} {speaker : Speaker} {display : Display}
    {random : RandomSource} (hmade : Speaker.audible? mixer volume pitch = (made, .ok speaker))
    (on : poweredOn? settings speaker display random (earlier ++ made) = .ok c) :
    ∃ p, c.machine.playback? = some p ∧ p.Disciplined c.machine.log.toList [] := by
  obtain ⟨hnew, haudible⟩ := new_audible? hmade
  have hplayback := playback?_poweredOn on
  refine ⟨_, hplayback, haudible, ⟨[], ?_, rfl, trivial, fun _ => rfl⟩, ?_⟩
  · rw [List.append_nil, (playback?_eq_some.1 hplayback).2]
  · have hlevels : (Playback.ask ⟨speaker, earlier ++ made⟩ .stop).levels =
        earlier.filterMap DeviceCall.level? ++ [volume] := by
      have htold : made.filterMap DeviceCall.level? = [volume] :=
        hnew.levels.trans (if_pos haudible)
      show ((earlier ++ made) ++ (speaker.answer .stop).2).filterMap DeviceCall.level? = _
      rw [List.filterMap_append, (speaker.answer_levels_of_not_setting .stop id).1,
        List.append_nil, List.filterMap_append, htold]
    have hlevel : (Playback.ask ⟨speaker, earlier ++ made⟩ .stop).speaker.level = volume := by
      show (if speaker.muted then Binary64.zero else speaker.volume) = volume
      have hheard : speaker.muted = false := hnew.heard
      rw [hheard]
      exact hnew.given
    rw [hlevels, List.getLast?_concat, hlevel]

/-- **Tones come one at a time**, whatever is done with a console whose speaker is at a mixer.  The
mixer is told to start a tone once for each time that a program sets the sound timer to a value
other than zero, in that order, from one tick to two hundred and fifty-five, and to repeat it
without end; nothing else starts a tone.  Between two starts the mixer is told to stop.  The level
that it was told last is zero while the speaker is muted, and otherwise the volume of the
speaker. -/
theorem tones_in_turn {mixer : Mixer} {volume : Binary64} {pitch : Amount}
    {earlier made : List DeviceCall} {speaker : Speaker} {display : Display}
    {random : RandomSource} (hmade : Speaker.audible? mixer volume pitch = (made, .ok speaker))
    (on : poweredOn? settings speaker display random (earlier ++ made) = .ok c)
    (operations : List Operation) :
    ∃ s calls, (c.after operations).machine.speaker = some s ∧
      (c.after operations).machine.log.toList = c.machine.log.toList ++ calls ∧
      (calls.filterMap DeviceCall.played? = (c.tonesOf operations).map toneOf ∧
        ∀ ticks ∈ c.tonesOf operations, 1 ≤ ticks.toNat ∧ ticks.toNat ≤ 255) ∧
      (∀ before between later loops loops' maxTime maxTime',
        calls = before ++ .playTone loops maxTime :: between ++
          .playTone loops' maxTime' :: later → .stopTone ∈ between) ∧
      ((c.after operations).machine.log.toList.filterMap DeviceCall.level?).getLast? =
        some (if s.muted then .zero else s.volume) := by
  obtain ⟨p, hp, hbegins⟩ := disciplined_poweredOn hmade on
  obtain ⟨q, hq, haudible, ⟨calls, hcalls, hplayed, honce, -⟩, hlevel⟩ :=
    disciplined_after operations (wellFormed_poweredOn on) hp hbegins
  obtain ⟨hspeaker, hlog⟩ := playback?_eq_some.1 hq
  refine ⟨q.speaker, calls, hspeaker, hlog.trans hcalls, ⟨hplayed, ?_⟩, ?_, ?_⟩
  · intro ticks hticks
    have hpos := pos_of_mem_tonesOf operations ticks hticks
    have hlt := ticks.toNat_lt
    omega
  · intro before between later loops loops' maxTime maxTime' hsplit
    rw [hsplit] at honce
    exact honce.stopped_between
  · rw [hlog]
    exact hlevel

/-- A speaker that was muted last is muted. -/
theorem muted_of_mute_last {operations : List Operation} {s : Speaker}
    (h : (c.after (operations ++ [.mute])).machine.speaker = some s) : s.muted = true := by
  rw [after_append] at h
  obtain ⟨earlier, -, rfl⟩ := Option.map_eq_some_iff.1 ((onSpeaker_speaker _ _).symm.trans h)
  rfl

/-- A speaker at a mixer. -/
def atMixer : Speaker := ⟨true, Speaker.standardVolume, false, false, 0⟩

/-- The calls that make such a speaker at a mixer that was not set to anything. -/
def atMixerCalls : List DeviceCall :=
  [.openMixer 44100 (-16) 1, .loadTone ⟨44100, 1, 90⟩, .toneVolume Speaker.standardVolume]

theorem atMixer_made :
    Speaker.audible? {} Speaker.standardVolume (.whole SquareWave.standardPitch) =
      (atMixerCalls, .ok atMixer) := rfl

/-- A console with room for four instructions and a speaker at a mixer. -/
def audibleQuad : Console :=
  (unreset quadSettings (.blank 0x20A) ⟨0x3F91111111111111⟩ atMixer .off (.cycle [])
    atMixerCalls).reset.1

set_option maxRecDepth 4000 in
theorem audibleQuad_poweredOn :
    poweredOn? quadSettings atMixer .off (.cycle []) ([] ++ atMixerCalls) = .ok audibleQuad := rfl

/-- A frame of a program that sets the sound timer to five and then to nine. -/
def twoTones : List Operation :=
  [.load [0x60, 0x05, 0xF0, 0x18, 0x60, 0x09, 0xF0, 0x18], .tick]

set_option maxRecDepth 4000 in
theorem tonesOf_audibleQuad : audibleQuad.tonesOf (twoTones ++ [.mute]) = [5, 9] := rfl

/-- Five ticks are eighty-three milliseconds, and nine are a hundred and fifty.  The first tone is
stopped before the second, and the level is zero at the end. -/
theorem audibleQuad_in_turn :
    ∃ s before between later,
      (audibleQuad.after (twoTones ++ [.mute])).machine.speaker = some s ∧ s.muted = true ∧
      (audibleQuad.after (twoTones ++ [.mute])).machine.log.toList = audibleQuad.machine.log.toList ++
        (before ++ .playTone (-1) 83 :: between ++ .playTone (-1) 150 :: later) ∧
      before.filterMap DeviceCall.played? = [] ∧ between.filterMap DeviceCall.played? = [] ∧
      later.filterMap DeviceCall.played? = [] ∧ .stopTone ∈ between ∧
      ((audibleQuad.after (twoTones ++ [.mute])).machine.log.toList.filterMap DeviceCall.level?).getLast? =
        some .zero := by
  obtain ⟨s, calls, hspeaker, hlog, ⟨hplayed, -⟩, hstopped, hlevel⟩ :=
    tones_in_turn atMixer_made audibleQuad_poweredOn (twoTones ++ [.mute])
  rw [tonesOf_audibleQuad] at hplayed
  obtain ⟨before, call, rest, rfl, hbefore, hcall, hrest⟩ := List.filterMap_eq_cons_iff.1 hplayed
  obtain ⟨between, call', later, rfl, hbetween, hcall', hlater⟩ :=
    List.filterMap_eq_cons_iff.1 hrest
  obtain rfl : call = .playTone (-1) 83 := DeviceCall.played?_eq_some hcall
  obtain rfl : call' = .playTone (-1) 150 := DeviceCall.played?_eq_some hcall'
  have hmuted : s.muted = true := muted_of_mute_last hspeaker
  have hcalls : before ++ .playTone (-1) 83 :: (between ++ .playTone (-1) 150 :: later) =
      before ++ .playTone (-1) 83 :: between ++ .playTone (-1) 150 :: later := by
    rw [List.append_assoc, List.cons_append]
  rw [hcalls] at hlog hstopped
  rw [hmuted] at hlevel
  exact ⟨s, before, between, later, hspeaker, hmuted, hlog, List.filterMap_eq_nil_iff.2 hbefore,
    List.filterMap_eq_nil_iff.2 hbetween, hlater, hstopped _ _ _ _ _ _ _ rfl, hlevel⟩

end Console

end ChipEight
