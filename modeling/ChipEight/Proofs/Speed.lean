/-
How many instructions make a frame is nothing that a program can tell.

Frames cut the instructions of a program into pieces.  At every cut the picture is shown, the
timers count down and, if the program waits, a key is looked for; nothing of this is seen by a
program that does not look at the delay timer, as long as no key is pressed.  So a console that
ran for a number of frames is where one uncut loop over as many instructions ends (`Stretch`).
This is proved frame by frame: what the next frame executes is what the longer loop executes at
its end, and both go on alike.

Two consoles that start the same program alike and were given as many instructions are therefore
at the same point of it, however these were cut.
-/
import ChipEight.Proofs.Installing
import ChipEight.Proofs.Showing

namespace ChipEight

open Machine Execution

/-! ### Keys that are not pressed -/

theorem Keypad.latch_released : Keypad.released.latch = .released := by decide +kernel

namespace Console

variable {settings settings' : Settings} {c d d' : Console} {m m' after : Machine} {steps n : Nat}

theorem runSteps_released (n : Nat) :
    ∀ {m : Machine}, m.keypad = .released → (runSteps n).run m = .ok () after →
      after.keypad = .released := by
  induction n with
  | zero =>
      intro m hkeys hran
      cases hran
      exact hkeys
  | succ n ih =>
      intro m hkeys hran
      obtain ⟨operand, between, hstep, hgoes, hwaits⟩ := runSteps_succ_ok hran
      have hlatched : between.latch.keypad = .released := by
        rw [Machine.latch, step_keypad hstep, hkeys, Keypad.latch_released]
      cases hruns : between.cpu.running with
      | true => exact ih hlatched (hgoes hruns)
      | false =>
          rw [hwaits hruns]
          exact hlatched

theorem pollKeys_released (hkeys : m.keypad = .released) : pollKeys m = m := by
  have hlatch : m.latch = m := by rw [Machine.latch, hkeys, Keypad.latch_released, ← hkeys]
  have hnone : m.keypad.activeKey? = none := by rw [hkeys]; rfl
  simp only [pollKeys, hlatch, hnone]

/-! ### Frames -/

theorem alike_decrementTimers (m : Machine) : m.Alike m.decrementTimers :=
  ⟨rfl, rfl, rfl, rfl, rfl, rfl, rfl, ⟨rfl, rfl, rfl⟩, rfl, rfl, rfl⟩

theorem alike_render (c : Console) : c.machine.Alike c.render.machine :=
  ⟨rfl, rfl, rfl, rfl, rfl, rfl, rfl, ⟨rfl, rfl, rfl⟩, rfl, rfl, rfl⟩

/-- A console is where so many instructions from a machine end: it is alike to what a loop over all
of them leaves, and it is halted by the fault that ended the loop, if one did. -/
inductive Stretch (m : Machine) (steps : Nat) (d : Console) : Prop
  | ended {after : Machine} (ran : (runSteps steps).run m = .ok () after)
      (alike : after.Alike d.machine) (active : d.active = true) (healthy : d.fault = none)
  | halted {after : Machine} {fault : Fault}
      (ran : (runSteps steps).run m = .error (.fault fault) after)
      (alike : after.Alike d.machine) (inactive : d.active = false)
      (shown : d.fault = some fault)

/-- A machine that a program begins with: no key is pressed, and every place has a pixel. -/
structure Begins (m : Machine) : Prop where
  runs : m.cpu.running = true
  keys : m.keypad = .released
  screen : m.screen.Complete

/-- A frame of a console goes on as the loop does, if neither looks at the delay timer. -/
theorem Stretch.tick (hm : Begins m) (h : Stretch m steps d)
    (huntimed : Untimed d.executions ∨
      Untimed (m.executions (steps + d.stepsPerFrame.toNat))) :
    Stretch m (steps + d.stepsPerFrame.toNat) d.tick.1 ∧
      m.executions (steps + d.stepsPerFrame.toNat) = m.executions steps ++ d.executions := by
  have hrun := run_runSteps_add steps d.stepsPerFrame.toNat hm.runs
  have hlist := executions_add steps d.stepsPerFrame.toNat hm.runs
  cases h with
  | halted ran alike inactive shown =>
      rw [ran] at hrun hlist
      rw [tick_of_inactive inactive, executions_of_inactive inactive]
      exact ⟨.halted hrun alike inactive shown, hlist⟩
  | @ended after ran alike active healthy =>
      simp only [ran] at hrun hlist
      have hmode := alike.mode
      cases hwaits : after.cpu.mode with
      | awaitingKey x =>
          rw [hwaits] at hmode
          have hstops : ¬ after.cpu.running = true := by simp [Cpu.running, hwaits]
          rw [if_neg hstops] at hrun hlist
          have hkeys : d.machine.keypad = .released := by
            rw [alike.keypad, runSteps_released steps hm.keys ran]
          rw [tick_waiting active hmode, executions_of_waiting hmode, pollKeys_released hkeys]
          exact ⟨.ended hrun (alike.trans (alike_decrementTimers _)) active healthy, hlist⟩
      | running =>
          rw [hwaits] at hmode
          have hgoes : after.cpu.running = true := by simp [Cpu.running, hwaits]
          rw [if_pos hgoes] at hrun hlist
          rw [executions_of_running active hmode] at huntimed ⊢
          have hscreen : after.screen.Complete :=
            runSteps_screen Screen.keptByDrawing_complete ran hm.screen
          obtain ⟨hsame, hend⟩ :
              d.machine.executions d.stepsPerFrame.toNat =
                  after.executions d.stepsPerFrame.toNat ∧
                SameEnd ((runSteps d.stepsPerFrame.toNat).run after)
                  ((runSteps d.stepsPerFrame.toNat).run d.machine) := by
            rcases huntimed with hframe | hloop
            · obtain ⟨hsame, hend⟩ :=
                alike.symm.runSteps _ (alike.picture.complete hscreen) hframe
              exact ⟨hsame.symm, hend.symm⟩
            · rw [hlist, untimed_append] at hloop
              exact alike.runSteps _ hscreen hloop.2
          rw [hsame]
          refine ⟨?_, hlist⟩
          generalize hleft : (runSteps d.stepsPerFrame.toNat).run after = left at hend
          generalize hright : (runSteps d.stepsPerFrame.toNat).run d.machine = right at hend
          rw [hleft] at hrun
          cases hend with
          | @ok u last last' alike' =>
              rw [tick_completed active hmode hright]
              have hrendered := alike_render { d with machine := last' }
              exact .ended hrun ((alike'.trans hrendered).trans (alike_decrementTimers _)) active
                healthy
          | @fault fault last last' alike' =>
              rw [tick_faulted active hmode hright]
              have hrendered := alike_render ({ d with machine := last' }.halt fault)
              exact .halted hrun (alike'.trans hrendered) rfl rfl

/-- Any number of frames goes on as the loop does. -/
theorem Stretch.ticked (hm : Begins m) (ticks : Nat) :
    ∀ {steps : Nat} {d : Console}, Stretch m steps d → d.stepsPerFrame.toNat = n →
      Untimed (d.executionsIn ticks) ∨ Untimed (m.executions (steps + ticks * n)) →
      Stretch m (steps + ticks * n) (d.ticked ticks) ∧
        m.executions (steps + ticks * n) = m.executions steps ++ d.executionsIn ticks := by
  induction ticks with
  | zero =>
      intro steps d h _ _
      rw [Nat.zero_mul, Nat.add_zero, executionsIn, List.append_nil]
      exact ⟨h, rfl⟩
  | succ ticks ih =>
      intro steps d h hn huntimed
      have hcut : steps + (ticks + 1) * n = steps + n + ticks * n := by
        rw [Nat.add_mul, Nat.one_mul]
        omega
      rw [hcut, executionsIn] at huntimed
      have hfirst : Untimed d.executions ∨ Untimed (m.executions (steps + n)) := by
        rw [untimed_append, executions_add (steps + n) (ticks * n) hm.runs, untimed_append]
          at huntimed
        exact huntimed.imp And.left And.left
      obtain ⟨hnext, hlist⟩ := h.tick hm (by rw [hn]; exact hfirst)
      rw [hn] at hnext hlist
      obtain ⟨hlast, hlists⟩ := ih hnext (by rw [tick_stepsPerFrame, hn])
        (huntimed.imp (fun hframes => (untimed_append.1 hframes).2) id)
      rw [hcut, ticked_succ, executionsIn]
      exact ⟨hlast, by rw [hlists, hlist, List.append_assoc]⟩

/-- Where loops of the same length end alike, so do the consoles. -/
theorem Stretch.same (h : Stretch m steps d) (h' : Stretch m' steps d')
    (hend : SameEnd ((runSteps steps).run m) ((runSteps steps).run m')) :
    d.machine.Alike d'.machine ∧ d'.active = d.active ∧ d'.fault = d.fault := by
  cases h with
  | ended ran alike active healthy =>
      cases h' with
      | ended ran' alike' active' healthy' =>
          rw [ran, ran'] at hend
          cases hend with
          | ok u between =>
              exact ⟨alike.symm.trans (between.trans alike'), by rw [active, active'],
                by rw [healthy, healthy']⟩
      | halted ran' =>
          rw [ran, ran'] at hend
          cases hend
  | halted ran alike inactive shown =>
      cases h' with
      | ended ran' =>
          rw [ran, ran'] at hend
          cases hend
      | halted ran' alike' inactive' shown' =>
          rw [ran, ran'] at hend
          cases hend with
          | fault fault between =>
              exact ⟨alike.symm.trans (between.trans alike'), by rw [inactive, inactive'],
                by rw [shown, shown']⟩

/-! ### Tones -/

/-- The speaker after a tone was sounded for so many ticks. -/
def sounded (speaker : Option Speaker) (ticks : UInt8) : Option Speaker :=
  speaker.map fun speaker => (speaker.play ticks.toNat).1

/-- The tones sounded in a number of frames. -/
def tonesIn (ticks : Nat) (c : Console) : List UInt8 :=
  (c.executionsIn ticks).filterMap Execution.tone?

/-- What an instruction makes of the speaker. -/
def soundedBy (speaker : Option Speaker) (e : Execution) : Option Speaker :=
  match e.tone? with
  | some ticks => sounded speaker ticks
  | none => speaker

theorem soundedBy_eq (speaker : Option Speaker) (e : Execution) :
    soundedBy speaker e = e.tone?.elim speaker (sounded speaker) := by
  rw [soundedBy]
  cases e.tone? <;> rfl

theorem follows_speaker : Follows (·.speaker) soundedBy :=
  follows_tones sounded (fun _ _ hspeaker _ => hspeaker) (fun m _ => m.onSpeaker_speaker _)
    soundedBy_eq

theorem pollKeys_speaker (m : Machine) : (pollKeys m).speaker = m.speaker := by
  simp only [pollKeys]
  split <;> rfl

/-- The tones of the frames are all that happens to the speaker. -/
theorem speaker_ticked (ticks : Nat) :
    ∀ {c : Console}, c.WellFormed settings →
      (c.ticked ticks).machine.speaker = (c.tonesIn ticks).foldl sounded c.machine.speaker := by
  induction ticks with
  | zero => intro c _; rfl
  | succ ticks ih =>
      intro c hwell
      have hfirst := follows_tick hwell id follows_speaker pollKeys_speaker (fun _ => rfl)
        (fun _ => rfl)
      rw [ite_self] at hfirst
      rw [ticked_succ, ih hwell.tick, hfirst, id, foldl_tones soundedBy_eq, tonesIn, tonesIn,
        executionsIn, List.filterMap_append, List.foldl_append]

/-! ### Two consoles -/

/-- A console that starts a program: nothing was executed, and no key is pressed. -/
structure Starts (c : Console) : Prop where
  active : c.active = true
  healthy : c.fault = none
  runs : c.machine.cpu.mode = .running
  keys : c.machine.keypad = .released
  screen : c.machine.screen = .standard

theorem starts_of_load (h : c.WellFormed settings) {program : List UInt8}
    (hloads : (c.load program).2 = none) : Starts (c.load program).1 := by
  obtain ⟨memory, -, hstarted⟩ := h.load_started hloads
  rw [hstarted]
  have hcpu : (c.started memory).machine.cpu = .initial := onSpeaker_cpu _ _
  exact ⟨rfl, rfl, by rw [hcpu]; rfl, onSpeaker_keypad _ _, onSpeaker_screen _ _⟩

theorem Starts.running (h : c.Starts) : c.machine.cpu.running = true := decide_eq_true h.runs

theorem Starts.begins (h : c.Starts) : Begins c.machine :=
  ⟨h.running, h.keys, by rw [h.screen]; exact Screen.coherent_standard.complete⟩

theorem Starts.executing (h : c.Starts) : c.executing = true :=
  executing_of_running h.active h.runs

theorem Starts.stretch (h : c.Starts) : Stretch c.machine 0 c :=
  .ended rfl (Alike.refl _) h.active h.healthy

theorem SameStart.alike (h : SameStart c d) (hdepth : d.machine.stackDepth = c.machine.stackDepth)
    (hrandom : d.machine.random = c.machine.random) : c.machine.Alike d.machine :=
  ⟨congrArg Cpu.v h.cpu, congrArg Cpu.index h.cpu, congrArg Cpu.pc h.cpu,
    congrArg Cpu.stack h.cpu, congrArg Cpu.operand h.cpu, congrArg Cpu.mode h.cpu, h.memory,
    ⟨congrArg Screen.width h.screen, congrArg Screen.height h.screen,
      congrArg Screen.pixels h.screen⟩, h.keypad, hdepth, hrandom⟩

/-- Two consoles that start alike, and have frames for as many instructions, end alike. -/
theorem ticked_alike (h : c.Starts) (h' : d.Starts) (halike : c.machine.Alike d.machine) {a b : Nat}
    (hequal : a * c.stepsPerFrame.toNat = b * d.stepsPerFrame.toNat)
    (huntimed : Untimed (c.executionsIn a)) :
    d.executionsIn b = c.executionsIn a ∧ (c.ticked a).machine.Alike (d.ticked b).machine ∧
      (d.ticked b).active = (c.ticked a).active ∧ (d.ticked b).fault = (c.ticked a).fault := by
  -- Both are where a loop over the same number of instructions ends.
  obtain ⟨hstretch, hlist⟩ := h.stretch.ticked h.begins a rfl (Or.inl huntimed)
  rw [Nat.zero_add] at hstretch hlist
  have hwhole : Untimed (c.machine.executions (a * c.stepsPerFrame.toNat)) := by
    rw [hlist]
    exact huntimed
  obtain ⟨hlists, hend⟩ := halike.runSteps _ h.begins.screen hwhole
  rw [hequal] at hlist hlists hend hstretch hwhole
  have hwhole' : Untimed (d.machine.executions (0 + b * d.stepsPerFrame.toNat)) := by
    rw [Nat.zero_add, hlists]
    exact hwhole
  obtain ⟨hstretch', hlist'⟩ := h'.stretch.ticked h'.begins b rfl (Or.inr hwhole')
  rw [Nat.zero_add] at hstretch' hlist'
  rw [hlist, hlist'] at hlists
  exact ⟨hlists, hstretch.same hstretch' hend⟩

/-- Two consoles have come to the same point of a program.  Their timers may differ, and the frames
they counted. -/
structure SamePoint (c d : Console) : Prop where
  machine : c.machine.Alike d.machine
  pending : d.machine.screen.pending = c.machine.screen.pending
  active : d.active = c.active
  fault : d.fault = c.fault

/-- Consoles that start to have frames have none, or show the picture by them. -/
theorem idle_or_shown (hwell : c.WellFormed settings) (hwell' : d.WellFormed settings')
    (h : c.Starts) (h' : d.Starts) (hsteps : 1 ≤ c.stepsPerFrame) (hsteps' : 1 ≤ d.stepsPerFrame)
    {a b : Nat} (hequal : a * c.stepsPerFrame.toNat = b * d.stepsPerFrame.toNat) :
    a = 0 ∧ b = 0 ∨
      (c.ticked a).machine.screen.pending = ∅ ∧ (d.ticked b).machine.screen.pending = ∅ := by
  cases a with
  | zero =>
      rw [Nat.zero_mul, eq_comm, Nat.mul_eq_zero] at hequal
      exact Or.inl ⟨rfl, hequal.resolve_right (by omega)⟩
  | succ a =>
      cases b with
      | zero =>
          rw [Nat.zero_mul, Nat.mul_eq_zero] at hequal
          omega
      | succ b =>
          exact Or.inr ⟨pending_ticked a hwell (Or.inr h.executing),
            pending_ticked b hwell' (Or.inr h'.executing)⟩

/-- **How fast a console is makes no difference to a program** that does not look at the delay
timer.  Let two consoles with as much memory, as deep a stack and the same random numbers load the
same program, and let no key be pressed.  After frames that make as many instructions in one as in
the other they are at the same point: they differ at most in the timers, the frames counted, the
speaker and what the devices were asked for.  They executed the same instructions; their speakers
were told the same tones, and nothing else; and what their displays were handed leaves the same
colours in every place, so that displays that showed the same before show the same. -/
theorem speed_makes_no_difference (h : Reachable settings c) (h' : Reachable settings' d)
    (hsize : settings'.memorySize = settings.memorySize)
    (hdepth : settings'.stackDepth = settings.stackDepth)
    (hrandom : d.machine.random = c.machine.random)
    (hsteps : 1 ≤ settings.stepsPerFrame) (hsteps' : 1 ≤ settings'.stepsPerFrame)
    {program : List UInt8} (hloads : (c.load program).2 = none) {a b : Nat}
    (hequal : a * settings.stepsPerFrame = b * settings'.stepsPerFrame)
    (huntimed : Untimed ((c.load program).1.executionsIn a)) :
    let start := (c.load program).1
    let start' := (d.load program).1
    (start.ticked a).SamePoint (start'.ticked b) ∧
      start'.executionsIn b = start.executionsIn a ∧
      start'.tonesIn b = start.tonesIn a ∧
      (start.ticked a).machine.speaker =
        (start.tonesIn a).foldl sounded start.machine.speaker ∧
      (start'.ticked b).machine.speaker =
        (start.tonesIn a).foldl sounded start'.machine.speaker ∧
      (∀ r r' : Recording, r.ShowsSame r' →
        (r.draw (start.handedIn a)).ShowsSame (r'.draw (start'.handedIn b))) ∧
      ∀ r r', c.display = .recording r → d.display = .recording r' → r.ShowsSame r' →
        ∃ q q', (start.ticked a).display = .recording q ∧
          (start'.ticked b).display = .recording q' ∧ q.ShowsSame q' := by
  intro start start'
  obtain ⟨hloads', hsamestart⟩ := h.wellFormed.load_sameStart h'.wellFormed hsize hloads
  have hundisturbed : c.Undisturbed start := h.wellFormed.load_undisturbed hloads
  have hundisturbed' : d.Undisturbed start' := h'.wellFormed.load_undisturbed hloads'
  have hstarts : start.Starts := starts_of_load h.wellFormed hloads
  have hstarts' : start'.Starts := starts_of_load h'.wellFormed hloads'
  have hwell : start.WellFormed settings := h.wellFormed.load program
  have hwell' : start'.WellFormed settings' := h'.wellFormed.load program
  have halike : start.machine.Alike start'.machine := by
    refine hsamestart.alike ?_ ?_
    · rw [hwell.machine.calls, hwell'.machine.calls, hdepth]
    · rw [hundisturbed.random, hundisturbed'.random, hrandom]
  have hnumber : a * start.stepsPerFrame.toNat = b * start'.stepsPerFrame.toNat := by
    rw [hwell.steps, hwell'.steps]
    zify
    rw [Int.toNat_of_nonneg (by omega), Int.toNat_of_nonneg (by omega)]
    exact hequal
  obtain ⟨hexecutions, hmachine, hactive, hfault⟩ :=
    ticked_alike hstarts hstarts' halike hnumber huntimed
  have htones : start'.tonesIn b = start.tonesIn a := by rw [tonesIn, hexecutions, tonesIn]
  have hframes := idle_or_shown hwell hwell' hstarts hstarts' (by rw [hwell.steps]; exact hsteps)
    (by rw [hwell'.steps]; exact hsteps') hnumber
  have hhanded : ∀ r r' : Recording, r.ShowsSame r' →
      (r.draw (start.handedIn a)).ShowsSame (r'.draw (start'.handedIn b)) := by
    intro r r' hshow
    rcases hframes with ⟨rfl, rfl⟩ | ⟨hpending, hpending'⟩
    · exact hshow
    · have hmirrors : (r.draw (start.handedIn a)).Mirrors r (start.ticked a).machine.screen :=
        mirrors_ticked a hwell (by rw [hstarts.screen]; exact Recording.mirrors_standard)
      have hmirrors' : (r'.draw (start'.handedIn b)).Mirrors r' (start'.ticked b).machine.screen :=
        mirrors_ticked b hwell' (by rw [hstarts'.screen]; exact Recording.mirrors_standard)
      exact hmirrors.showsSame hmirrors' hshow hmachine.picture hpending hpending'
  refine ⟨⟨hmachine, ?_, hactive, hfault⟩, hexecutions, htones, speaker_ticked a hwell, ?_,
    hhanded, ?_⟩
  · rcases hframes with ⟨rfl, rfl⟩ | ⟨hpending, hpending'⟩
    · show start'.machine.screen.pending = start.machine.screen.pending
      rw [hstarts.screen, hstarts'.screen]
    · rw [hpending, hpending']
  · rw [← htones]
    exact speaker_ticked b hwell'
  · intro r r' hdisplay hdisplay' hshow
    obtain ⟨q, hq, hpixels⟩ := recording_ticked a hwell (hundisturbed.display.trans hdisplay)
    obtain ⟨q', hq', hpixels'⟩ := recording_ticked b hwell' (hundisturbed'.display.trans hdisplay')
    refine ⟨q, q', hq, hq', ?_⟩
    intro place
    rw [hpixels, hpixels']
    exact hhanded r r' hshow place

/-- The settings of a console whose frames are half as long. -/
def singleSettings : Settings := { pairSettings with stepsPerFrame := 1 }

/-- A console with room for two instructions, each of which is a frame. -/
def single : Console :=
  (unreset singleSettings (.blank 0x204) ⟨0x3F91111111111111⟩ (.silent Speaker.standardVolume)
    (.recording .blank) (.cycle []) []).reset.1

set_option maxRecDepth 4000 in
theorem single_poweredOn :
    poweredOn? singleSettings (.silent Speaker.standardVolume) (.recording .blank) (.cycle []) [] =
      .ok single := rfl

set_option maxRecDepth 4000 in
theorem executions_toned :
    (pair.load [0x60, 0x05, 0xF0, 0x18]).1.executions = [⟨.load 0 5, Cpu.initial.v⟩,
      ⟨.setSound 0, (Cpu.initial.setReg 0 5).v⟩] := rfl

set_option maxRecDepth 4000 in
theorem random_single : single.machine.random = pair.machine.random := rfl

/-- Two short frames sound the tone that one long frame sounds. -/
theorem single_as_pair :
    ((pair.load [0x60, 0x05, 0xF0, 0x18]).1.ticked 1).SamePoint
        ((single.load [0x60, 0x05, 0xF0, 0x18]).1.ticked 2) ∧
      (single.load [0x60, 0x05, 0xF0, 0x18]).1.tonesIn 2 = [5] := by
  have hpair : Reachable pairSettings pair := .poweredOn pair_poweredOn
  have hsingle : Reachable singleSettings single := .poweredOn single_poweredOn
  have hexecutions : (pair.load [0x60, 0x05, 0xF0, 0x18]).1.executionsIn 1 =
      [⟨.load 0 5, Cpu.initial.v⟩,
        ⟨.setSound 0, (Cpu.initial.setReg 0 5).v⟩] := by
    rw [executionsIn, executionsIn, executions_toned, List.append_nil]
  have huntimed : Untimed ((pair.load [0x60, 0x05, 0xF0, 0x18]).1.executionsIn 1) := by
    rw [hexecutions]
    simp [Untimed, ReadsDelay]
  have hloads : (pair.load [0x60, 0x05, 0xF0, 0x18]).2 = none :=
    hpair.wellFormed.load_succeeds_iff.2 (Or.inr (by decide))
  have hequal : (1 : Nat) * pairSettings.stepsPerFrame = (2 : Nat) * singleSettings.stepsPerFrame :=
    rfl
  obtain ⟨hpoint, -, htones, -⟩ := speed_makes_no_difference hpair hsingle rfl rfl random_single
    (by decide) (by decide) hloads hequal huntimed
  refine ⟨hpoint, ?_⟩
  rw [htones, tonesIn, hexecutions]
  rfl

end Console

end ChipEight
