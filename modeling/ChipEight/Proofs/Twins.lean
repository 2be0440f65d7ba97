/-
Machines that differ in nothing but their host.

The host of a machine is its speaker, the log of what the devices were asked for, and the place
where its random numbers come from.  Two machines are twins when everything else is the same and
the numbers that they are still to draw are; of how many were drawn already they need not agree,
and `gap` is how many more one of them has drawn than the other.  The host of a console is that of
its machine and the display, and the length of a frame is of no account either.

Twins stay twins, and the gap stays what it is: whatever happens to both does the same to both.  The
proof goes through the instructions that come to their end, constructor by constructor; what is in
the way of an instruction does not hang on the host.
-/
import ChipEight.Proofs.LifeCycle

namespace ChipEight

/-- From now on the same numbers are drawn from both sources; one has drawn `gap` more. -/
structure RandomSource.Level (gap : Int) (r other : RandomSource) : Prop where
  ahead : ∀ i, other.byte (other.drawn + i) = r.byte (r.drawn + i)
  drawn : (other.drawn : Int) = r.drawn + gap

/-- Two machines have everything in common but their hosts. -/
structure Machine.Twin (gap : Int) (m other : Machine) : Prop where
  cpu : other.cpu = m.cpu
  memory : other.memory = m.memory
  screen : other.screen = m.screen
  keypad : other.keypad = m.keypad
  stackDepth : other.stackDepth = m.stackDepth
  random : m.random.Level gap other.random

/-- Two consoles have everything in common but their hosts and the length of their frames. -/
structure Console.Twin (gap : Int) (c other : Console) : Prop where
  machine : c.machine.Twin gap other.machine
  stepsPerFrame : other.stepsPerFrame = c.stepsPerFrame
  active : other.active = c.active
  fault : other.fault = c.fault
  frames : other.frames = c.frames

variable {gap : Int}

theorem RandomSource.Level.next_eq {r other : RandomSource} (h : r.Level gap other) :
    other.next = r.next :=
  h.ahead 0

theorem RandomSource.Level.advance {r other : RandomSource} (h : r.Level gap other) :
    r.advance.Level gap other.advance where
  ahead := by
    intro i
    have hlater : ∀ n, n + 1 + i = n + (i + 1) := by omega
    simp only [RandomSource.advance, hlater]
    exact h.ahead (i + 1)
  drawn := by
    have hdrawn := h.drawn
    simp only [RandomSource.advance]
    omega

namespace Machine

open Machine.Action Instruction

variable {m m' after after' : Machine} {instruction : Instruction}

/-- The machine with another host. -/
def hostedBy (m : Machine) (speaker : Option Speaker) (random : RandomSource)
    (log : Array DeviceCall) : Machine :=
  { m with speaker := speaker, random := random, log := log }

theorem twin_hostedBy {speaker : Option Speaker} {random : RandomSource} {log : Array DeviceCall}
    (h : m.random.Level gap random) : m.Twin gap (m.hostedBy speaker random log) :=
  ⟨rfl, rfl, rfl, rfl, rfl, h⟩

theorem Twin.exists_eq (h : m.Twin gap m') :
    ∃ speaker random log, m.random.Level gap random ∧ m' = m.hostedBy speaker random log := by
  cases m' with
  | mk cpu memory screen keypad speaker stackDepth random log =>
      obtain ⟨rfl, rfl, rfl, rfl, rfl, hrandom⟩ := h
      exact ⟨speaker, random, log, hrandom, rfl⟩

/-! ### Single changes -/

theorem Twin.onCpu (h : m.Twin gap m') (change : Cpu → Cpu) :
    (m.onCpu change).Twin gap (m'.onCpu change) := by
  obtain ⟨speaker, random, log, hrandom, rfl⟩ := h.exists_eq
  exact twin_hostedBy hrandom

theorem Twin.onSpeaker (h : m.Twin gap m') (action action' : Speaker → Speaker × List DeviceCall) :
    (m.onSpeaker action).Twin gap (m'.onSpeaker action') where
  cpu := by rw [onSpeaker_cpu, onSpeaker_cpu, h.cpu]
  memory := by rw [onSpeaker_memory, onSpeaker_memory, h.memory]
  screen := by rw [onSpeaker_screen, onSpeaker_screen, h.screen]
  keypad := by rw [onSpeaker_keypad, onSpeaker_keypad, h.keypad]
  stackDepth := by rw [onSpeaker_stackDepth, onSpeaker_stackDepth, h.stackDepth]
  random := by rw [onSpeaker_random, onSpeaker_random]; exact h.random

theorem Twin.latch (h : m.Twin gap m') : m.latch.Twin gap m'.latch := by
  obtain ⟨speaker, random, log, hrandom, rfl⟩ := h.exists_eq
  exact twin_hostedBy hrandom

/-! ### Instructions -/

/-- An instruction leaves twins. -/
theorem Completes.twin (h : Completes m instruction after) (h' : Completes m' instruction after')
    (hm : m.Twin gap m') : after.Twin gap after' := by
  obtain ⟨speaker, random, log, hrandom, rfl⟩ := hm.exists_eq
  cases h with
  | ret calls =>
      cases h' with
      | ret calls' =>
          cases calls.symm.trans calls'
          exact twin_hostedBy hrandom
  | skip holds =>
      cases h' with
      | skip => exact twin_hostedBy hrandom
      | goOn fails => cases holds.symm.trans fails
  | goOn fails =>
      cases h' with
      | skip holds => cases fails.symm.trans holds
      | goOn => exact twin_hostedBy hrandom
  | @random x kk =>
      cases h'
      refine ⟨?_, rfl, rfl, rfl, rfl, hrandom.advance⟩
      simp only [onCpu_cpu, hostedBy, hrandom.next_eq]
  | draw read drawn =>
      cases h' with
      | draw read' drawn' =>
          cases read.symm.trans read'
          cases drawn.symm.trans drawn'
          exact twin_hostedBy hrandom
  | silence zero =>
      cases h' with
      | silence => exact twin_hostedBy hrandom
      | sound nonzero => exact absurd zero nonzero
  | sound nonzero =>
      cases h' with
      | silence zero => exact absurd zero nonzero
      | sound => exact (hm.onCpu _).onSpeaker _ _
  | storeDecimal stored =>
      cases h' with
      | storeDecimal stored' =>
          cases stored.symm.trans stored'
          exact twin_hostedBy hrandom
  | store stored =>
      cases h' with
      | store stored' =>
          cases stored.symm.trans stored'
          exact twin_hostedBy hrandom
  | restore read =>
      cases h' with
      | restore read' =>
          cases read.symm.trans read'
          exact hm.onCpu _
  | _ =>
      cases h'
      exact twin_hostedBy hrandom

/-! ### Steps and loops -/

/-- Two actions end as twins: both came to their end with the same answer, or both in the same
fault. -/
inductive TwinEnd (gap : Int) {α : Type} :
    EStateM.Result Stop Machine α → EStateM.Result Stop Machine α → Prop
  | ok (answer : α) {after after' : Machine} (twin : after.Twin gap after') :
      TwinEnd gap (.ok answer after) (.ok answer after')
  | fault (fault : Fault) {after after' : Machine} (twin : after.Twin gap after') :
      TwinEnd gap (.error (.fault fault) after) (.error (.fault fault) after')

theorem Twin.step (h : m.Twin gap m') (hscreen : m.screen.Complete) :
    TwinEnd gap (Machine.step.run m) (Machine.step.run m') := by
  have hscreen' : m'.screen.Complete := by rwa [h.screen]
  have htogether := step_together h.memory (congrArg Cpu.pc h.cpu) (congrArg Cpu.index h.cpu)
    (congrArg Cpu.stack h.cpu) h.stackDepth hscreen hscreen'
  generalize Machine.step.run m = result at htogether ⊢
  generalize Machine.step.run m' = result' at htogether ⊢
  cases htogether with
  | unfetched fault => exact .fault fault h
  | obstructed word fault => exact .fault fault (h.onCpu _)
  | completed word next completes completes' =>
      exact .ok word (completes.twin completes' ((h.onCpu _).onCpu _))

theorem Twin.runSteps (n : Nat) :
    ∀ {m m' : Machine}, m.Twin gap m' → m.screen.Complete →
      TwinEnd gap ((Console.runSteps n).run m) ((Console.runSteps n).run m') := by
  induction n with
  | zero => intro m m' h _; exact .ok () h
  | succ n ih =>
      intro m m' h hscreen
      have hstep := h.step hscreen
      rw [Console.run_runSteps_succ, Console.run_runSteps_succ]
      generalize hrun : Machine.step.run m = first at hstep
      generalize Machine.step.run m' = first' at hstep
      cases hstep with
      | fault fault twin => exact .fault fault twin
      | @ok answer after after' twin =>
          simp only [twin.cpu]
          split
          · have hcomplete : after.screen.Complete :=
              step_screen Screen.keptByDrawing_complete hrun hscreen
            exact ih twin.latch hcomplete
          · exact .ok () twin.latch

end Machine

namespace Console

open Machine

variable {settings : Settings} {c d : Console}

/-! ### Operations -/

theorem Twin.refl (c : Console) : c.Twin 0 c :=
  ⟨⟨rfl, rfl, rfl, rfl, rfl, ⟨fun _ => rfl, by omega⟩⟩, rfl, rfl, rfl, rfl⟩

/-- The console with other devices, another source of random numbers and frames of another
length. -/
def elsewhere (c : Console) (speaker : Option Speaker) (random : RandomSource) (display : Display)
    (interval : Binary64) : Console :=
  { c with
    machine := c.machine.hostedBy speaker random #[]
    display := display
    interval := interval }

theorem twin_elsewhere {speaker : Option Speaker} {random : RandomSource} {display : Display}
    {interval : Binary64} (h : c.machine.random.Level gap random) :
    c.Twin gap (c.elsewhere speaker random display interval) :=
  ⟨Machine.twin_hostedBy h, rfl, rfl, rfl, rfl⟩

/-- What is wanted of a console is of no account to its twins. -/
theorem Twin.withLooping (h : c.Twin gap d) (looping looping' : Bool) :
    ({ c with looping := looping } : Console).Twin gap { d with looping := looping' } :=
  ⟨h.machine, h.stepsPerFrame, h.active, h.fault, h.frames⟩

theorem Twin.wellFormed (h : c.Twin gap d) (hc : c.WellFormed settings) :
    d.WellFormed settings where
  machine := by
    refine ⟨?_, ?_, ?_, ?_⟩
    · rw [h.machine.memory, hc.machine.memory]
    · rw [h.machine.stackDepth, hc.machine.calls]
    · rw [h.machine.cpu]
      exact hc.machine.cpu
    · rw [h.machine.screen]
      exact hc.machine.screen
  sprites := hc.sprites
  steps := by rw [h.stepsPerFrame, hc.steps]
  healthy := by
    rw [h.active, h.fault]
    exact hc.healthy

theorem Twin.onSpeaker (h : c.Twin gap d) (action action' : Speaker → Speaker × List DeviceCall) :
    (c.onSpeaker action).Twin gap (d.onSpeaker action') :=
  ⟨h.machine.onSpeaker action action', h.stepsPerFrame, h.active, h.fault, h.frames⟩

theorem Twin.setKey (h : c.Twin gap d) (key : Int) (down : Bool) :
    (c.setKey key down).Twin gap (d.setKey key down) := by
  have hm := h.machine
  refine ⟨⟨hm.cpu, hm.memory, hm.screen, ?_, hm.stackDepth, hm.random⟩, h.stepsPerFrame,
    h.active, h.fault, h.frames⟩
  simp only [Console.setKey, hm.keypad]

theorem twin_resetMachine {m m' : Machine} (h : m.Twin gap m') (memory : Memory) :
    (resetMachine { m with memory := memory }).Twin gap
      (resetMachine { m' with memory := memory }) := by
  obtain ⟨speaker, random, log, hrandom, rfl⟩ := h.exists_eq
  refine Machine.Twin.onSpeaker ?_ _ _
  exact twin_hostedBy hrandom

theorem Twin.reset (h : c.Twin gap d) (hc : c.WellFormed settings) :
    c.reset.1.Twin gap d.reset.1 := by
  rw [hc.reset_eq, (h.wellFormed hc).reset_eq]
  exact ⟨twin_resetMachine h.machine _, h.stepsPerFrame, rfl, rfl, h.frames⟩

theorem Twin.load (h : c.Twin gap d) (hc : c.WellFormed settings) (program : List UInt8) :
    (c.load program).1.Twin gap (d.load program).1 := by
  have hreset := h.reset hc
  have hm := hreset.machine
  rw [hc.load_eq, (h.wellFormed hc).load_eq]
  cases settings.freshMemory.store Cpu.programStart program with
  | error fault => exact hreset
  | ok memory =>
      exact ⟨⟨hm.cpu, rfl, hm.screen, hm.keypad, hm.stackDepth, hm.random⟩, hreset.stepsPerFrame,
        rfl, hreset.fault, hreset.frames⟩

theorem twin_pollKeys {m m' : Machine} (h : m.Twin gap m') :
    (pollKeys m).Twin gap (pollKeys m') := by
  simp only [pollKeys, h.latch.keypad]
  split
  · exact h.latch
  · exact h.latch.onCpu _

/-- A frame is shown on any display. -/
theorem Twin.render (h : c.Twin gap d) : c.render.Twin gap d.render := by
  have hm := h.machine
  refine ⟨⟨hm.cpu, hm.memory, ?_, hm.keypad, hm.stackDepth, hm.random⟩, h.stepsPerFrame,
    h.active, h.fault, h.frames⟩
  show d.machine.screen.handOver.1 = c.machine.screen.handOver.1
  rw [hm.screen]

theorem Twin.finishFrame (h : c.Twin gap d) : c.finishFrame.Twin gap d.finishFrame :=
  ⟨h.machine.onCpu _, h.stepsPerFrame, h.active, h.fault, congrArg (· + 1) h.frames⟩

theorem Twin.withMachine (h : c.Twin gap d) {m m' : Machine} (hm : m.Twin gap m') :
    ({ c with machine := m } : Console).Twin gap { d with machine := m' } :=
  ⟨hm, h.stepsPerFrame, h.active, h.fault, h.frames⟩

/-- The frames of twins are of the same kind, and have the same answer. -/
theorem Twin.tick (h : c.Twin gap d) (hc : c.WellFormed settings) :
    c.tick.1.Twin gap d.tick.1 ∧ d.tick.2 = c.tick.2 := by
  by_cases hactive : c.active = true
  · have hactive' : d.active = true := h.active.trans hactive
    cases hmode : c.machine.cpu.mode with
    | awaitingKey x =>
        have hmode' : d.machine.cpu.mode = .awaitingKey x := by rw [h.machine.cpu, hmode]
        rw [tick_waiting hactive hmode, tick_waiting hactive' hmode']
        exact ⟨(h.withMachine (twin_pollKeys h.machine)).finishFrame, rfl⟩
    | running =>
        have hmode' : d.machine.cpu.mode = .running := by rw [h.machine.cpu, hmode]
        have hend := h.machine.runSteps c.stepsPerFrame.toNat hc.machine.screen.complete
        generalize hran : (runSteps c.stepsPerFrame.toNat).run c.machine = result at hend
        generalize hran' : (runSteps c.stepsPerFrame.toNat).run d.machine = result' at hend
        rw [← h.stepsPerFrame] at hran'
        cases hend with
        | ok answer twin =>
            rw [tick_completed hactive hmode hran, tick_completed hactive' hmode' hran']
            exact ⟨(h.withMachine twin).render.finishFrame, rfl⟩
        | @fault fault after after' twin =>
            rw [tick_faulted hactive hmode hran, tick_faulted hactive' hmode' hran']
            refine ⟨Twin.render ?_, rfl⟩
            exact ⟨twin, h.stepsPerFrame, rfl, rfl, h.frames⟩
  · have hinactive : c.active = false := by simpa using hactive
    have hinactive' : d.active = false := h.active.trans hinactive
    rw [tick_of_inactive hinactive, tick_of_inactive hinactive']
    exact ⟨h, rfl⟩

/-- Whatever happens to both of two twins leaves twins. -/
theorem Twin.apply (h : c.Twin gap d) (hc : c.WellFormed settings) (operation : Operation) :
    (c.apply operation).Twin gap (d.apply operation) := by
  cases operation with
  | load program => exact h.load hc program
  | reset => exact h.reset hc
  | press key => exact h.setKey key true
  | release key => exact h.setKey key false
  | mute => exact h.onSpeaker _ _
  | unmute => exact h.onSpeaker _ _
  | setVolume volume => exact h.onSpeaker _ _
  | tick => exact (h.tick hc).1

theorem Twin.after (h : c.Twin gap d) (hc : c.WellFormed settings) (operations : List Operation) :
    (c.after operations).Twin gap (d.after operations) := by
  induction operations generalizing c d with
  | nil => exact h
  | cons operation rest ih => exact ih (h.apply hc operation) (hc.apply operation)

end Console

end ChipEight
