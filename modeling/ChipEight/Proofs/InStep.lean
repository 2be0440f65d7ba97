/-
How a session keeps in step with its console.

A session remembers two things that its console knows already: whether the sound is off, and the
fault that the caption of the window names.  The key that turns the sound off and on changes both
copies of the first at once, and nothing else changes either.  The fault comes and goes in the
console alone, in frames and by programs that are loaded anew, and the session only looks at it at
the end of a poll, when it may set the caption.

So what is carried through a run is not that the second pair of copies is equal.  It is that the
caption which was set last names the fault that the session remembers (`InStep`), and the end of a
poll makes that the fault of the console.  It also has to be known that a console whose fault is
shown is halted: then no frame puts another fault in the place of the first between two polls, not
even one that looks the same.  `Glance.fault?` tells such faults apart, by the number of times that
a frame had halted a program before.
-/
import ChipEight.Proofs.Captions
import ChipEight.Proofs.Installing
import ChipEight.Proofs.Pacing

namespace ChipEight

namespace Session

open Console

variable {settings : Settings} {s : Session} {shown : Option Fault} {told : List String}

/-! ### Between two captions -/

/-- The captions that the window was given, the first one first. -/
def captions (s : Session) : List String :=
  s.console.machine.log.toList.filterMap DeviceCall.caption?

/-- The sound is off where the session takes it to be off.  The window was given these captions, and
the last of them names the fault that the session remembers. -/
structure InStep (settings : Settings) (rom : String) (shown : Option Fault)
    (told : List String) (s : Session) : Prop where
  console : s.console.Tells settings s.muted told
  program : s.rom = rom
  remembered : s.shownFault = shown
  last : told.getLast? = some (caption rom (shown.map Fault.message))

variable {rom : String}

theorem InStep.captions_eq (h : s.InStep settings rom shown told) : s.captions = told := by
  obtain ⟨p, hp, -, hcaptions⟩ := h.console.playback
  rw [Session.captions, (Machine.playback?_eq_some.1 hp).2]
  exact hcaptions

theorem InStep.onConsole (h : s.InStep settings rom shown told) (operation : Operation)
    (hother : operation.muted? = none) :
    (s.onConsole (·.apply operation)).InStep settings rom shown told := by
  have hconsole := h.console.apply operation
  rw [hother] at hconsole
  exact ⟨hconsole, h.program, h.remembered, h.last⟩

theorem InStep.withLooping (h : s.InStep settings rom shown told) (looping : Bool) :
    (s.onConsole fun c => { c with looping := looping }).InStep settings rom shown told :=
  ⟨h.console.withLooping looping, h.program, h.remembered, h.last⟩

/-- Both copies change at once. -/
theorem InStep.toggleMute (h : s.InStep settings rom shown told) :
    s.toggleMute.InStep settings rom shown told := by
  refine ⟨?_, h.program, h.remembered, h.last⟩
  have hconsole : ∀ muted : Bool,
      (if muted then s.console.mute else s.console.unmute).Tells settings muted told := by
    intro muted
    cases muted with
    | true => exact h.console.apply .mute
    | false => exact h.console.apply .unmute
  exact hconsole !s.muted

theorem InStep.keyDown (h : s.InStep settings rom shown told) (read : Reader) (code : Int) :
    (s.keyDown read code).InStep settings rom shown told := by
  unfold Session.keyDown
  split
  · exact h.withLooping false
  · split
    · exact ⟨h.console.loadFile read s.rom, h.program, h.remembered, h.last⟩
    · split
      · exact h.toggleMute
      · split
        · exact h
        · exact h.onConsole (.press _) rfl

theorem InStep.keyUp (h : s.InStep settings rom shown told) (code : Int) :
    (s.keyUp code).InStep settings rom shown told := by
  unfold Session.keyUp
  split
  · exact h
  · exact h.onConsole (.release _) rfl

theorem InStep.handle (h : s.InStep settings rom shown told) (read : Reader)
    (event : HostEvent) : (handle read s event).InStep settings rom shown told := by
  cases event with
  | keyDown code => exact h.keyDown read code
  | keyUp code => exact h.keyUp code
  | quit => exact h.withLooping false
  | other => exact h

theorem InStep.tick (h : s.InStep settings rom shown told) :
    s.tick.InStep settings rom shown told := by
  unfold Session.tick
  split
  · exact ⟨h.console.withLooping false, h.program, h.remembered, h.last⟩
  · exact h.onConsole .tick rfl

/-- The end of a poll makes the caption name the fault of the console, and sets none that is set
already. -/
theorem InStep.showFault (h : s.InStep settings rom shown told) :
    s.showFault.InStep settings rom s.console.fault
      (told ++ if s.console.fault = shown then []
        else [caption rom (s.console.fault.map Fault.message)]) := by
  have hremembered := h.remembered
  have hrom := h.program
  by_cases hsame : s.console.fault = shown
  · have hstays : s.showFault = s := if_pos (hsame.trans hremembered.symm)
    rw [hstays, if_pos hsame, List.append_nil, hsame]
    exact h
  · have hfault : s.console.fault ≠ s.shownFault := by rwa [hremembered]
    rw [Session.showFault, if_neg hfault, if_neg hsame, ← hrom]
    exact ⟨h.console.caption _, rfl, rfl, List.getLast?_concat⟩

/-! ### Polls -/

section

variable (s : Session)

@[simp] theorem showFault_muted : s.showFault.muted = s.muted := by
  unfold showFault
  split <;> rfl

@[simp] theorem showFault_fault : s.showFault.console.fault = s.console.fault := by
  unfold showFault
  split <;> rfl

@[simp] theorem showFault_active : s.showFault.console.active = s.console.active := by
  unfold showFault
  split <;> rfl

@[simp] theorem showFault_looping : s.showFault.console.looping = s.console.looping := by
  unfold showFault
  split <;> rfl

end

/-- Whatever happened since the last poll, the caption is that of the fault as it is now. -/
theorem InStep.poll (h : s.InStep settings rom shown told)
    (happenings : List (Reader × HostEvent)) :
    (s.poll happenings).InStep settings rom (s.poll happenings).console.fault
      (told ++ if (s.poll happenings).console.fault = shown then []
        else [caption rom ((s.poll happenings).console.fault.map Fault.message)]) := by
  have hevents : (happenings.foldl (fun s happening => Session.handle happening.1 s happening.2)
      s).InStep settings rom shown told :=
    List.foldlRecOn happenings _ h fun _ ht happening _ => ht.handle happening.1 happening.2
  rw [Session.poll, showFault_fault]
  exact hevents.showFault

/-- Whether the next frame halts the program. -/
def halting (s : Session) : Bool := s.console.active && !s.tick.console.active

theorem tick_of_inactive (h : s.console.active = false) : s.tick = s := by
  have hidle : s.console.executing = false := executing_of_inactive h
  rw [tick, hidle, Bool.and_false, if_neg Bool.false_ne_true, Session.onConsole,
    Console.tick_of_inactive h]

/-- A session as a poll left it, and how often a frame had halted a program before. -/
structure Glance where
  session : Session
  halts : Nat

/-- The fault of the console, told apart from those of the frames before. -/
def Glance.fault? (g : Glance) : Option (Nat × Fault) :=
  g.session.console.fault.map fun fault => (g.halts, fault)

/-- The sound is off where the session takes it to be off, and the caption that was set last is that
for the program and what halted it. -/
def Glance.Agrees (g : Glance) (rom : String) : Prop :=
  (∃ speaker, g.session.console.machine.speaker = some speaker ∧
    g.session.muted = speaker.muted) ∧
  g.session.captions.getLast? = some (caption rom (g.session.console.fault.map Fault.message))

/-- A caption was set after the earlier of two glances if and only if the fault is another. -/
def Glance.Updates (rom : String) (later earlier : Glance) : Prop :=
  later.session.captions = earlier.session.captions ++
    if later.fault? = earlier.fault? then []
    else [caption rom (later.session.console.fault.map Fault.message)]

theorem Glance.fault?_eq_iff {later earlier : Glance}
    (h : earlier.session.console.fault.isSome → later.halts = earlier.halts) :
    later.fault? = earlier.fault? ↔
      later.session.console.fault = earlier.session.console.fault := by
  unfold fault?
  cases hearlier : earlier.session.console.fault with
  | none => simp
  | some fault =>
      rw [hearlier] at h
      rw [h rfl]
      cases later.session.console.fault <;> simp

theorem InStep.agrees {halts : Nat} (h : s.InStep settings rom s.console.fault told) :
    (Glance.mk s halts).Agrees rom := by
  obtain ⟨p, hp, hmuted, -⟩ := h.console.playback
  refine ⟨⟨p.speaker, (Machine.playback?_eq_some.1 hp).1, hmuted.symm⟩, ?_⟩
  rw [h.captions_eq]
  exact h.last

/-! ### Sittings -/

/-- Where a session takes place: its clock, its keyboard and its files. -/
structure Host (κ : Type) where
  now : κ → Binary64 × κ
  sleep : Binary64 → κ → κ
  /-- What happened at the keyboard since the last poll, and with each of these things the files as
  they were then. -/
  happenings : κ → List (Reader × HostEvent) × κ

/-- A session that takes place somewhere. -/
structure Sitting (κ : Type) where
  session : Session
  place : κ
  /-- How often a frame halted a program. -/
  halts : Nat
  /-- The session as the polls left it, the last one first, and as it was before the first. -/
  glances : List Glance

variable {κ : Type}

namespace Sitting

def poll (host : Host κ) (x : Sitting κ) : Sitting κ :=
  let (happenings, place) := host.happenings x.place
  let session := x.session.poll happenings
  { x with session := session, place := place, glances := ⟨session, x.halts⟩ :: x.glances }

def tick (x : Sitting κ) : Sitting κ :=
  { x with
    session := x.session.tick
    halts := if x.session.halting then x.halts + 1 else x.halts }

theorem tick_of_halting {x : Sitting κ} (h : x.session.halting = true) :
    x.tick = { x with session := x.session.tick, halts := x.halts + 1 } := by
  rw [tick, if_pos h]

theorem tick_of_inactive {x : Sitting κ} (h : x.session.console.active = false) : x.tick = x := by
  have hnothing : x.session.halting = false := by rw [halting, h, Bool.false_and]
  rw [tick, hnothing, if_neg Bool.false_ne_true, Session.tick_of_inactive h]

/-- The actions of the session. -/
def pace (host : Host κ) : Pace (StateM (Sitting κ)) Binary64 :=
  { now := modifyGet fun x => ((host.now x.place).1, { x with place := (host.now x.place).2 })
    sleep := fun seconds => modify fun x => { x with place := host.sleep seconds x.place }
    poll := modify (poll host)
    tick := modify tick
    going := do return (← get).session.console.looping }

/-- A sitting that begins with a session. -/
def first (s : Session) (place : κ) : Sitting κ :=
  { session := s.start, place := place, halts := 0, glances := [⟨s.start, 0⟩] }

/-- The session is in step with its console since the last glance, and was at all glances. -/
structure Kept (settings : Settings) (rom : String) (last : Glance) (x : Sitting κ) : Prop where
  inStep : x.session.InStep settings rom last.session.console.fault last.session.captions
  /-- Once a fault is shown, no frame brings another. -/
  halted : last.session.console.fault.isSome →
    x.session.console.active = false ∧ x.halts = last.halts
  recent : x.glances.head? = some last
  agree : ∀ g ∈ x.glances, g.Agrees rom
  chain : x.glances.IsChain (Glance.Updates rom)

variable {last : Glance} {x : Sitting κ}

theorem Kept.poll (h : x.Kept settings rom last) (host : Host κ) :
    ∃ next, (x.poll host).Kept settings rom next := by
  have hstep := h.inStep.poll (host.happenings x.place).1
  generalize hsession : x.session.poll (host.happenings x.place).1 = session at hstep
  have hcaptions := hstep.captions_eq
  rw [← hcaptions] at hstep
  have hpoll : x.poll host =
      { x with
        session := session
        place := (host.happenings x.place).2
        glances := ⟨session, x.halts⟩ :: x.glances } := by
    rw [← hsession]
    rfl
  rw [hpoll]
  refine ⟨⟨session, x.halts⟩, hstep, ?_, rfl, ?_, ?_⟩
  · -- A console that shows a fault is halted.
    intro hfault
    refine ⟨?_, rfl⟩
    by_contra hactive
    rw [hstep.console.wellFormed.healthy (eq_true_of_ne_false hactive)] at hfault
    cases hfault
  · intro g hg
    rcases List.mem_cons.1 hg with rfl | hearlier
    · exact hstep.agrees
    · exact h.agree g hearlier
  · have hupdates : Glance.Updates rom ⟨session, x.halts⟩ last := by
      -- If a fault was shown before, no frame halted a program since, so that the same fault
      -- cannot have come back as another.
      have hfaults : (Glance.mk session x.halts).fault? = last.fault? ↔
          session.console.fault = last.session.console.fault :=
        Glance.fault?_eq_iff fun hfault => (h.halted hfault).2
      simp only [Glance.Updates, hfaults]
      exact hcaptions
    obtain ⟨rest, hglances⟩ := List.head?_eq_some_iff.1 h.recent
    have hchain := h.chain
    rw [hglances] at hchain ⊢
    exact hchain.cons_cons hupdates

theorem Kept.tick (h : x.Kept settings rom last) : x.tick.Kept settings rom last := by
  refine ⟨h.inStep.tick, ?_, h.recent, h.agree, h.chain⟩
  intro hfault
  obtain ⟨hinactive, hhalts⟩ := h.halted hfault
  rw [tick_of_inactive hinactive]
  exact ⟨hinactive, hhalts⟩

/-- Nothing but polls and frames matters to the session. -/
theorem Kept.withPlace (h : x.Kept settings rom last) (place : κ) :
    ({ x with place := place } : Sitting κ).Kept settings rom last :=
  ⟨h.inStep, h.halted, h.recent, h.agree, h.chain⟩

theorem allKeep (settings : Settings) (rom : String) (host : Host κ) :
    Pace.AllKeep (fun x => ∃ last, x.Kept settings rom last) (pace host) where
  now := fun _ ⟨last, h⟩ => ⟨last, h.withPlace _⟩
  sleep := fun _ _ ⟨last, h⟩ => ⟨last, h.withPlace _⟩
  poll := fun _ ⟨_, h⟩ => h.poll host
  tick := fun _ ⟨last, h⟩ => ⟨last, h.tick⟩
  going := fun _ h => h

end Sitting

/-! ### The beginning -/

section

variable {options : Options} {mixer : Mixer} {read : Reader} {random : RandomSource}

/-- The settings of the console of a session. -/
def settingsFor (options : Options) : Settings :=
  { stepsPerFrame := options.stepsPerFrame.getD 0 }

/-- The speaker of a session is heard at first, and to make it gives the window no caption. -/
theorem heard_of_speakerFor {calls : List DeviceCall} {speaker : Speaker}
    (made : speakerFor options mixer = (calls, .ok speaker)) :
    speaker.muted = false ∧ calls.filterMap DeviceCall.caption? = [] := by
  obtain ⟨opening, hopens, hmade⟩ := Playback.speakerFor_ok made
  have huntold : opening.filterMap DeviceCall.caption? = [] :=
    DeviceCall.filterMap_opening (fun _ _ _ => rfl) hopens
  rcases hmade with ⟨rfl, rfl⟩ | ⟨wave, rfl, rfl⟩
  · exact ⟨rfl, huntold⟩
  · rw [List.filterMap_append, huntold]
    exact ⟨rfl, rfl⟩

theorem begin_ready_iff :
    begin options mixer read random = .ready s ↔
      ∃ calls speaker c d,
        speakerFor options mixer = (calls, .ok speaker) ∧
        poweredOn? (settingsFor options) speaker (.window (windowFor options).1) random
          ((windowFor options).2 ++ calls) = .ok c ∧
        (if options.mute then c.mute else c).loadFile read options.rom = (d, none) ∧
        s = { console := d
              keyMap := .byCode
              rom := options.rom
              muted := options.mute
              shownFault := none
              openEnded := options.stepsPerFrame.isNone
              brokenOff := false } := by
  unfold begin
  simp only [settingsFor]
  cases hspeaker : speakerFor options mixer with
  | mk calls made =>
      cases made with
      | error reason => simp
      | ok speaker =>
          cases hconsole : poweredOn? { stepsPerFrame := options.stepsPerFrame.getD 0 } speaker
              (.window (windowFor options).1) random ((windowFor options).2 ++ calls) with
          | error error => simp [hconsole]
          | ok c =>
              simp only
              cases hload : (if options.mute then c.mute else c).loadFile read options.rom with
              | mk d error =>
                  cases error with
                  | some error => simp [hconsole, hload]
                  | none => simpa [hconsole, hload] using eq_comm

/-- A session begins in step, with its program in the caption and nothing of it executed. -/
theorem inStep_begin (begins : begin options mixer read random = .ready s) :
    s.InStep (settingsFor options) options.rom none [Window.title, caption options.rom none] ∧
      ∃ program, read options.rom = .ok program ∧
        s.console.Fresh Memory.defaultSize program := by
  obtain ⟨calls, speaker, c, d, hspeaker, hconsole, hload, rfl⟩ := begin_ready_iff.1 begins
  obtain ⟨hheard, huntold⟩ := heard_of_speakerFor hspeaker
  have htold : ((windowFor options).2 ++ calls).filterMap DeviceCall.caption? =
      [Window.title, caption options.rom none] := by
    rw [List.filterMap_append, huntold]
    rfl
  have hc : c.Tells (settingsFor options) false [Window.title, caption options.rom none] := by
    have hmade := tells_poweredOn hconsole rfl
    rwa [htold, hheard] at hmade
  have hmuted : (if options.mute then c.mute else c).Tells (settingsFor options) options.mute
      [Window.title, caption options.rom none] := by
    cases options.mute with
    | true => exact hc.apply .mute
    | false => exact hc
  have hd := hmuted.loadFile read options.rom
  rw [hload] at hd
  exact ⟨⟨hd, rfl, rfl, rfl⟩, hmuted.wellFormed.loadFile_fresh hload⟩

theorem Sitting.kept_first (begins : begin options mixer read random = .ready s) (place : κ) :
    (Sitting.first s place).Kept (settingsFor options) options.rom ⟨s.start, 0⟩ := by
  obtain ⟨hstep, program, -, hfresh⟩ := inStep_begin begins
  have hhealthy : s.start.console.fault = none := hfresh.fault
  have hstart : s.start.InStep (settingsFor options) options.rom s.start.console.fault
      s.start.captions := by
    have hloops := hstep.withLooping true
    have hcaptions : s.start.captions = _ := hloops.captions_eq
    rw [hcaptions, hhealthy]
    exact hloops
  refine ⟨hstart, ?_, rfl, ?_, List.IsChain.singleton _⟩
  · intro hhalted
    rw [hhealthy] at hhalted
    cases hhalted
  · intro g hg
    rw [List.mem_singleton.1 hg]
    exact hstart.agrees

end

/-- A session that took place somewhere, for not more than a number of turns. -/
def Sitting.after (host : Host κ) (s : Session) (place : κ) (turns : Nat) : Sitting κ :=
  (((pace host).run s.start.console.interval turns).run (first s place)).2

/-- **A session is in step with its console after every poll**, whatever happens at the keyboard and
to the files, however the clock goes and whatever becomes of the programs that are loaded anew.  The
session takes the sound to be off if and only if the speaker is muted, and the last caption of the
window is that for the program and the fault that halted it, or for the program alone if none did.
From one poll to the next a caption is set if the fault is another then, and only if it is. -/
theorem in_step_after_polls {options : Options} {mixer : Mixer} {read : Reader}
    {random : RandomSource} (begins : begin options mixer read random = .ready s) (host : Host κ)
    (place : κ) (turns : Nat) :
    (∀ g ∈ (Sitting.after host s place turns).glances, g.Agrees options.rom) ∧
      (Sitting.after host s place turns).glances.IsChain (Glance.Updates options.rom) := by
  obtain ⟨last, hkept⟩ := (Sitting.allKeep (settingsFor options) options.rom host).run turns
    (Sitting.first s place) ⟨_, Sitting.kept_first begins place⟩
  exact ⟨hkept.agree, hkept.chain⟩

end Session

/-! ### At a desk -/

open Console Machine in
/-- A program that begins with a return is halted by its first frame. -/
theorem Console.Fresh.tick_lost {size : Int} {c : Console} (h : c.Fresh size [0x00, 0xEE])
    (hsize : 0x202 ≤ size) (hsteps : 0 < c.stepsPerFrame) :
    ∃ after, c.tick.1 = ({ c with machine := after }.halt .stackUnderflow).render := by
  have hhigh : c.machine.memory.byteAt 0x200 = 0x00 := h.image 0 (by decide)
  have hlow : c.machine.memory.byteAt 0x201 = 0xEE := h.image 1 (by decide)
  have hword : c.machine.memory.wordAt 0x200 = 0x00EE := by
    show (c.machine.memory.byteAt 0x200).toNat * 256 + (c.machine.memory.byteAt 0x201).toNat = _
    rw [hhigh, hlow]
    rfl
  have hpc : c.machine.cpu.pc = 0x200 := by rw [h.cpu]
  have hfetch : c.machine.memory.readWord c.machine.cpu.pc = .ok 0x00EE := by
    have hmemory := h.memorySize
    rw [hpc, Memory.readWord_eq, if_pos ⟨by decide, by omega⟩, hword]
  have hstack : c.machine.cpu.stack = [] := by rw [h.cpu]
  have hruns : c.machine.cpu.mode = .running := by rw [h.cpu]
  have hstep := (Obstacle.noCall rfl hstack).run_step hfetch (by decide)
  have hran := runSteps_of_stop (.none c.machine) hstep (n := c.stepsPerFrame.toNat) (by omega)
  rw [tick_faulted h.active hruns hran]
  exact ⟨_, rfl⟩

namespace Session

open Console

variable {settings : Settings} {s : Session}

/-- A file with a program that returns from no call. -/
def lost : Reader := fun _ => .ok [0x00, 0xEE]

/-- The sound is turned off or on, and the program is to be loaded anew from a file that is gone. -/
def muting : List (Reader × HostEvent) :=
  [(lost, .keyDown muteKey), (fun _ => .error .missing, .keyDown reloadKey)]

/-- The program is loaded anew, and the window is closed. -/
def closing : List (Reader × HostEvent) := [(lost, .keyDown reloadKey), (lost, .quit)]

/-- A clock that stands still, and polls that differ. -/
def desk : Host Nat :=
  { now := fun poll => (.zero, poll)
    sleep := fun _ poll => poll
    happenings := fun
      | 0 => ([], 1)
      | 1 => (muting, 2)
      | poll => (closing, poll + 1) }

/-- The options of a session without sound. -/
def quiet : Options := { Options.standard with rom := "pong", noSound := true }

theorem loadFile_lost (c : Console) : c.loadFile lost "pong" = c.load [0x00, 0xEE] := by
  have hname : "pong".contains (Char.ofNat 0) = false := by simp
  rw [Console.loadFile, hname]
  rfl

theorem quiet_begins : ∃ s, begin quiet {} lost (.cycle []) = .ready s := by
  have hconsole : (poweredOn? (settingsFor quiet) (.silent Speaker.standardVolume)
      (.window (windowFor quiet).1) (.cycle []) ((windowFor quiet).2 ++ [])).isOk = true := by
    decide +kernel
  cases hon : poweredOn? (settingsFor quiet) (.silent Speaker.standardVolume)
      (.window (windowFor quiet).1) (.cycle []) ((windowFor quiet).2 ++ []) with
  | error error =>
      rw [hon] at hconsole
      cases hconsole
  | ok c =>
      have hloads : (c.load [0x00, 0xEE]).2 = none :=
        (wellFormed_poweredOn hon).load_succeeds_iff.2 (Or.inr (by decide))
      refine ⟨_, begin_ready_iff.2 ⟨[], _, c, (c.load [0x00, 0xEE]).1, rfl, hon, ?_, rfl⟩⟩
      rw [← hloads]
      exact loadFile_lost c

/-- The first frame of the program halts it. -/
theorem start_halting (begins : begin quiet {} lost (.cycle []) = .ready s) :
    s.start.halting = true ∧ s.start.tick.muted = s.start.muted ∧
      s.start.tick.console.fault = some .stackUnderflow ∧
      s.start.tick.console.active = false ∧ s.start.tick.console.looping = true := by
  obtain ⟨calls, speaker, c, d, -, -, -, hs⟩ := begin_ready_iff.1 begins
  have hclosed : s.start.openEnded = false := by
    rw [hs]
    rfl
  obtain ⟨hstep, program, hread, hbegun⟩ := inStep_begin begins
  cases hread
  have hsteps : s.console.stepsPerFrame = 12 := hstep.console.wellFormed.steps
  have hfresh : s.start.console.Fresh Memory.defaultSize [0x00, 0xEE] := { hbegun with }
  obtain ⟨after, htick⟩ := hfresh.tick_lost (by decide) (hsteps ▸ (by decide))
  have hframe : s.start.tick = s.start.onConsole fun c =>
      ({ c with machine := after }.halt .stackUnderflow).render := by
    rw [tick, hclosed, Bool.false_and, if_neg Bool.false_ne_true, onConsole, htick]
    rfl
  rw [halting, hfresh.active, hframe]
  exact ⟨rfl, rfl, rfl, rfl, rfl⟩

theorem poll_muting (s : Session) :
    (s.poll muting).muted = (!s.muted) ∧ (s.poll muting).console.fault = s.console.fault ∧
      (s.poll muting).console.active = s.console.active ∧
      (s.poll muting).console.looping = s.console.looping := by
  have hgone : ∀ c : Console, (c.loadFile (fun _ => .error .missing) s.rom).1 = c := by
    intro c
    unfold loadFile
    split <;> rfl
  have hpoll : s.poll muting = s.toggleMute.showFault := by
    show (s.toggleMute.onConsole fun c => (c.loadFile _ s.rom).1).showFault = _
    rw [onConsole, hgone]
  rw [hpoll, showFault_muted, showFault_fault, showFault_active, showFault_looping, toggleMute,
    onConsole]
  cases s.muted <;> exact ⟨rfl, rfl, rfl, rfl⟩

theorem poll_closing (hwell : s.console.WellFormed settings) (hrom : s.rom = "pong")
    (hroom : 0x202 ≤ settings.memorySize) :
    (s.poll closing).muted = s.muted ∧ (s.poll closing).console.fault = none ∧
      (s.poll closing).console.looping = false := by
  have hloads : (s.console.load [0x00, 0xEE]).2 = none :=
    hwell.load_succeeds_iff.2 (Or.inr hroom)
  have hpoll : s.poll closing =
      (s.onConsole fun c => (c.load [0x00, 0xEE]).1.stop).showFault := by
    show (s.onConsole fun c => (c.loadFile lost s.rom).1.stop).showFault = _
    simp only [hrom, loadFile_lost]
  rw [hpoll, showFault_muted, showFault_fault, showFault_looping]
  exact ⟨rfl, (hwell.load_fresh hloads).fault, rfl⟩

namespace Sitting

/-- What a sitting at the desk comes to in a number of turns, whatever their deadlines are. -/
def Ends (turns : Nat) (x last : Sitting Nat) : Prop :=
  ∀ interval next, (((pace desk).turns interval turns next).run x).2 = last

variable {turns : Nat} {x last : Sitting Nat}

theorem run_turns_desk (hgoes : x.session.console.looping = true) (interval next : Binary64) :
    ∃ later, ((pace desk).turns interval (turns + 1) next).run x =
      if (x.poll desk).session.console.looping then
        ((pace desk).turns interval turns later).run (x.poll desk).tick
      else (true, x.poll desk) := by
  simp only [Pace.turns, Pace.turn, pace, bind_pure_comp, bind_map_left, StateT.run_bind,
    StateT.run_get, pure_bind, hgoes, Bool.not_true, Bool.false_eq_true, ↓reduceIte,
    StateT.run_modify]
  cases (x.poll desk).session.console.looping with
  | false => exact ⟨next, rfl⟩
  | true =>
      simp only [Bool.not_true, Bool.false_eq_true, ↓reduceIte, StateT.run_bind,
        StateT.run_modify, StateT.run_modifyGet, pure_bind]
      -- The clock is read once more in a turn that is late, and shows the same.
      split
      · exact ⟨_, rfl⟩
      · exact ⟨_, rfl⟩

theorem ends_of_going (hgoes : x.session.console.looping = true)
    (hpolled : (x.poll desk).session.console.looping = true)
    (h : Ends turns (x.poll desk).tick last) : Ends (turns + 1) x last := by
  intro interval next
  obtain ⟨later, hrun⟩ := run_turns_desk hgoes interval next
  rw [hrun, if_pos hpolled]
  exact h interval later

theorem ends_of_closed (hgoes : x.session.console.looping = true)
    (hpolled : (x.poll desk).session.console.looping = false) :
    Ends (turns + 1) x (x.poll desk) := by
  intro interval next
  obtain ⟨later, hrun⟩ := run_turns_desk hgoes interval next
  rw [hrun, hpolled, if_neg Bool.false_ne_true]

/-- The sitting ends with the third poll, and one frame before that halted a program. -/
theorem glances_after_desk (hfirst : s.start.poll [] = s.start) (hhalting : s.start.halting = true)
    (hgoes : s.start.tick.console.looping = true) {second : Session}
    (hsecond : s.start.tick.poll muting = second) (hidle : second.console.active = false)
    (hgoes' : second.console.looping = true)
    (hcloses : (second.poll closing).console.looping = false) :
    (after desk s 0 4).glances =
      [⟨second.poll closing, 1⟩, ⟨second, 1⟩, ⟨s.start, 0⟩, ⟨s.start, 0⟩] := by
  have hpolled : (first s 0).poll desk = ⟨s.start, 1, 0, [⟨s.start, 0⟩, ⟨s.start, 0⟩]⟩ := by
    show Sitting.mk (s.start.poll []) _ _ (⟨s.start.poll [], 0⟩ :: _) = _
    rw [hfirst]
    rfl
  have hpolled' : (Sitting.mk s.start.tick 1 1 [⟨s.start, 0⟩, ⟨s.start, 0⟩]).poll desk =
      ⟨second, 2, 1, [⟨second, 1⟩, ⟨s.start, 0⟩, ⟨s.start, 0⟩]⟩ := by
    show Sitting.mk (s.start.tick.poll muting) 2 1 [⟨s.start.tick.poll muting, 1⟩, _, _] = _
    rw [hsecond]
  have hends : Ends 4 (first s 0) ⟨second.poll closing, 3, 1,
      [⟨second.poll closing, 1⟩, ⟨second, 1⟩, ⟨s.start, 0⟩, ⟨s.start, 0⟩]⟩ := by
    refine ends_of_going rfl (by rw [hpolled]; rfl) ?_
    rw [hpolled, tick_of_halting hhalting]
    refine ends_of_going hgoes (by rw [hpolled']; exact hgoes') ?_
    rw [hpolled', tick_of_inactive hidle]
    exact ends_of_closed hgoes' hcloses
  exact congrArg glances (hends _ _)

end Sitting

/-- The first frame halts the program, and the poll after it turns the sound off and shows the
fault; nothing else comes of the file that is gone.  The last poll loads the program anew, so that
the fault is no longer shown. -/
theorem quiet_in_step :
    ∃ s, begin quiet {} lost (.cycle []) = .ready s ∧
      ((Sitting.after desk s 0 4).glances.map fun g =>
          (g.session.captions, g.fault?, g.session.muted)) =
        [(["CHIP8 Emulator", "CHIP8 Emulator - pong",
            "CHIP8 Emulator - pong - halted: Return with an empty call stack",
            "CHIP8 Emulator - pong"], none, true),
          (["CHIP8 Emulator", "CHIP8 Emulator - pong",
            "CHIP8 Emulator - pong - halted: Return with an empty call stack"],
            some (1, .stackUnderflow), true),
          (["CHIP8 Emulator", "CHIP8 Emulator - pong"], none, false),
          (["CHIP8 Emulator", "CHIP8 Emulator - pong"], none, false)] ∧
      (∀ g ∈ (Sitting.after desk s 0 4).glances, g.Agrees "pong") ∧
      (Sitting.after desk s 0 4).glances.IsChain (Glance.Updates "pong") := by
  obtain ⟨s, begins⟩ := quiet_begins
  refine ⟨s, begins, ?_, in_step_after_polls begins desk 0 4⟩
  obtain ⟨hstep, program, -, hfresh⟩ := inStep_begin begins
  have hbegun : s.start.InStep (settingsFor quiet) "pong" none
      [Window.title, caption "pong" none] := hstep.withLooping true
  have hhealthy : s.start.console.fault = none := hfresh.fault
  have hheard : s.start.muted = false := by
    obtain ⟨calls, speaker, c, d, -, -, -, hs⟩ := begin_ready_iff.1 begins
    rw [hs]
    rfl
  have hfirst : s.start.poll [] = s.start := if_pos (hhealthy.trans hbegun.remembered.symm)
  obtain ⟨hhalting, hkept, hhalted, hinactive, hgoes⟩ := start_halting begins
  -- The second poll shows the fault, and the third one takes it away again.
  have hsecond := hbegun.tick.poll muting
  obtain ⟨hmuted, hfault, hidle, hgoes'⟩ := poll_muting s.start.tick
  generalize hpoll : s.start.tick.poll muting = second at *
  rw [hkept, hheard] at hmuted
  rw [hhalted] at hfault
  have hthird := hsecond.poll closing
  obtain ⟨hmuted', hfault', hcloses⟩ :=
    poll_closing hsecond.console.wellFormed hsecond.program (by decide)
  rw [hfault] at hsecond
  rw [hfault', hfault] at hthird
  rw [Sitting.glances_after_desk hfirst hhalting hgoes hpoll (hidle.trans hinactive)
    (hgoes'.trans hgoes) hcloses]
  simp only [List.map_cons, List.map_nil, hbegun.captions_eq, hsecond.captions_eq,
    hthird.captions_eq, Glance.fault?, hhealthy, hfault, hfault', hheard, hmuted, hmuted']
  rfl

end Session

end ChipEight
