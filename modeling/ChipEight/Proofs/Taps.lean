/-
What becomes of a key that is tapped.

The keys are latched after every instruction and before every look for a key, and each latch
replaces the snapshot of the one before.  A key that was pressed between two frames is in the
snapshot that the next latch takes.  `Reads` says which snapshots a tick reads, and the question
is whether that one is among them.

It is, with one exception.  A frame that waits for a key latches right before it looks.  A frame
that executes instructions has the tap after the first of them, and the second reads it, or, if
there is only one to a frame, the first of the next frame.  But if the first makes the processor
wait, the frame ends there, and the next one latches once more before it looks.
-/
import ChipEight.Proofs.Keys
import ChipEight.Proofs.LifeCycle

namespace ChipEight

open Machine Instruction

/-- The instruction to be executed next makes the processor wait. -/
def Machine.BeginsToWait (m : Machine) : Prop :=
  m.cpu.mode = .running ∧ ∃ x, m.next? = some (.awaitKey x)

/-! ### Between two ticks -/

/-- No snapshot was taken since, and no tap was forgotten. -/
structure Keypad.Untaken (k later : Keypad) : Prop where
  latched : later.latched = k.latched
  tapped : ∀ key, k.tapped.get key = true → later.tapped.get key = true

theorem Keypad.Untaken.refl (k : Keypad) : k.Untaken k := ⟨rfl, fun _ h => h⟩

theorem Keypad.Untaken.trans {k later last : Keypad} (h : k.Untaken later)
    (h' : later.Untaken last) : k.Untaken last :=
  ⟨h'.latched.trans h.latched, fun key htapped => h'.tapped key (h.tapped key htapped)⟩

theorem Keypad.untaken_setKey (k : Keypad) (number : Int) (down : Bool) :
    k.Untaken (k.setKey number down) :=
  ⟨rfl, fun _ h => tapped_setKey number down h⟩

namespace Console

variable {settings : Settings} {c : Console} {snapshot : Vector Bool 16}

theorem untaken_onSpeaker (c : Console) (action : Speaker → Speaker × List DeviceCall) :
    c.machine.keypad.Untaken (c.onSpeaker action).machine.keypad := by
  have hsame : (c.onSpeaker action).machine.keypad = c.machine.keypad := onSpeaker_keypad _ action
  rw [hsame]
  exact .refl _

theorem untaken_manual {operation : Operation} (hmanual : operation.Manual) :
    c.machine.keypad.Untaken (c.apply operation).machine.keypad := by
  cases operation with
  | load program => cases hmanual
  | reset => cases hmanual
  | tick => cases hmanual
  | press number => exact Keypad.untaken_setKey _ number true
  | release number => exact Keypad.untaken_setKey _ number false
  | mute => exact untaken_onSpeaker c _
  | unmute => exact untaken_onSpeaker c _
  | setVolume volume => exact untaken_onSpeaker c _

theorem untaken_after {operations : List Operation}
    (hmanual : ∀ operation ∈ operations, operation.Manual) :
    c.machine.keypad.Untaken (c.after operations).machine.keypad := by
  refine after_induction (P := fun d => c.machine.keypad.Untaken d.machine.keypad) (.refl _) ?_
  intro d huntaken operation hmember
  exact huntaken.trans (untaken_manual (hmanual operation hmember))

/-- A key that was pressed is tapped until the next latch, released or not. -/
theorem tapped_after {operations : List Operation} {number : Int}
    (hmanual : ∀ operation ∈ operations, operation.Manual)
    (hpress : Operation.press number ∈ operations) :
    (c.after operations).machine.keypad.tapped.get (Key.ofInt number) = true := by
  obtain ⟨earlier, later, rfl⟩ := List.append_of_mem hpress
  have hlater : ∀ operation ∈ later, operation.Manual := by
    intro operation hmember
    exact hmanual operation (by simp [hmember])
  rw [after_append]
  exact (untaken_after hlater).tapped _ (Keypad.tapped_press number)

/-! ### What a tick reads -/

/-- A tick reads a snapshot of the keys: an instruction that comes to its end is executed with it,
or a key is looked for in it. -/
inductive Reads (c : Console) : Vector Bool 16 → Prop where
  | instruction {executed operand : Nat} {before after : Machine} (active : c.active = true)
      (runs : c.machine.cpu.mode = .running) (room : executed < c.stepsPerFrame.toNat)
      (executes : Executes executed c.machine before)
      (ends : step.run before = .ok operand after) : Reads c before.keypad.latched
  | look {x : Register} (active : c.active = true)
      (waits : c.machine.cpu.mode = .awaitingKey x) : Reads c c.machine.keypad.latch.latched

/-- A frame that waits looks once, right after a latch. -/
theorem reads_iff_of_waiting (hactive : c.active = true) {x : Register}
    (hwaits : c.machine.cpu.mode = .awaitingKey x) :
    c.Reads snapshot ↔ snapshot = c.machine.keypad.latch.latched := by
  constructor
  · intro h
    cases h with
    | instruction active runs => rw [hwaits] at runs; cases runs
    | look => rfl
  · rintro rfl
    exact .look hactive hwaits

/-- How a frame that executes instructions and does not fault begins: with a step, and then with
the rest of the loop, unless that step made the processor wait. -/
theorem exists_first_step (h : Reachable settings c) (hactive : c.active = true)
    (hruns : c.machine.cpu.mode = .running) (hsteps : 1 ≤ c.stepsPerFrame)
    (hanswer : c.tick.2 = .ok true) :
    ∃ rest operand between after, c.stepsPerFrame.toNat = rest + 1 ∧
      step.run c.machine = .ok operand between ∧
      (between.cpu.running = true → (runSteps rest).run between.latch = .ok () after) ∧
      (between.cpu.running = false → after = between.latch) ∧
      c.tick.1 = { c with machine := after }.render.finishFrame := by
  obtain ⟨after, hran, htick⟩ := runSteps_of_tick h.wellFormed.machine hactive hruns hanswer
  obtain ⟨rest, hrest⟩ : ∃ rest, c.stepsPerFrame.toNat = rest + 1 :=
    ⟨c.stepsPerFrame.toNat - 1, by omega⟩
  rw [hrest] at hran
  obtain ⟨operand, between, hstep, hgoes, hends⟩ := runSteps_succ_ok hran
  exact ⟨rest, operand, between, after, hrest, hstep, hgoes, hends, htick⟩

/-- Such a frame reads the snapshot it begins with. -/
theorem reads_latched (h : Reachable settings c) (hactive : c.active = true)
    (hruns : c.machine.cpu.mode = .running) (hsteps : 1 ≤ c.stepsPerFrame)
    (hanswer : c.tick.2 = .ok true) : c.Reads c.machine.keypad.latched := by
  obtain ⟨rest, operand, between, after, hrest, hstep, -⟩ :=
    exists_first_step h hactive hruns hsteps hanswer
  exact .instruction hactive hruns (by omega) (.none _) hstep

/-- If its first instruction waits, it ends with a latch and reads nothing newer. -/
theorem beginsToWait_tick (h : Reachable settings c) (hactive : c.active = true)
    (hbegins : c.machine.BeginsToWait) (hsteps : 1 ≤ c.stepsPerFrame)
    (hanswer : c.tick.2 = .ok true) :
    (∃ x, c.tick.1.machine.cpu.mode = .awaitingKey x) ∧
      c.tick.1.machine.keypad = c.machine.keypad.latch ∧
      ∀ snapshot, c.Reads snapshot ↔ snapshot = c.machine.keypad.latched := by
  obtain ⟨hruns, y, hnext⟩ := hbegins
  obtain ⟨rest, operand, between, after, -, hstep, -, hends, htick⟩ :=
    exists_first_step h hactive hruns hsteps hanswer
  have hwaits : ∃ x, between.cpu.mode = .awaitingKey x := by
    rcases step_mode hstep with ⟨x, -, rfl⟩ | ⟨hother, -⟩
    · exact ⟨x, rfl⟩
    · exact absurd hnext (hother y)
  have hstops : between.cpu.running = false := Cpu.running_eq_false.2 hwaits
  rw [htick, hends hstops]
  refine ⟨hwaits, congrArg Keypad.latch (step_keypad hstep), ?_⟩
  intro snapshot
  constructor
  · intro hreads
    cases hreads with
    | instruction active runs room executes =>
        cases executes with
        | none => rfl
        | more steps runs =>
            rw [hstep] at steps
            cases steps
            rw [hstops] at runs
            cases runs
    | look active waits => rw [hruns] at waits; cases waits
  · rintro rfl
    exact reads_latched h hactive hruns hsteps hanswer

/-- Otherwise what its first latch takes is read by the frame, or the next frame begins with it. -/
theorem latch_read (h : Reachable settings c) (hactive : c.active = true)
    (hsteps : 1 ≤ c.stepsPerFrame) (hanswer : c.tick.2 = .ok true)
    (hbegins : ¬ c.machine.BeginsToWait) :
    c.Reads c.machine.keypad.latch.latched ∨
      c.tick.1.machine.cpu.mode = .running ∧
        c.tick.1.machine.keypad.latched = c.machine.keypad.latch.latched := by
  cases hmode : c.machine.cpu.mode with
  | awaitingKey x => exact Or.inl (.look hactive hmode)
  | running =>
      obtain ⟨rest, operand, between, after, hrest, hstep, hgoes, -, htick⟩ :=
        exists_first_step h hactive hmode hsteps hanswer
      have hruns : between.cpu.mode = .running := by
        rcases step_mode hstep with ⟨x, hnext, -⟩ | ⟨-, hsame⟩
        · exact absurd ⟨hmode, x, hnext⟩ hbegins
        · rw [hsame, hmode]
      have hrunning : between.cpu.running = true := by rw [Cpu.running, hruns]; rfl
      have hlatched : between.latch.keypad = c.machine.keypad.latch :=
        congrArg Keypad.latch (step_keypad hstep)
      have hran := hgoes hrunning
      cases rest with
      | zero =>
          -- There is one instruction to a frame.
          cases hran
          rw [htick]
          exact Or.inr ⟨hruns, congrArg Keypad.latched hlatched⟩
      | succ rest =>
          obtain ⟨second, last, hsecond, -, -⟩ := runSteps_succ_ok hran
          rw [← hlatched]
          have hexecutes : Executes 1 c.machine between.latch := .more hstep hrunning (.none _)
          exact Or.inl (.instruction hactive hmode (by omega) hexecutes hsecond)

/-- **A tap is read, unless the program begins to wait right after it.**  A key that is pressed
between two ticks is in the snapshot that the next latch takes.  Of the two ticks that follow one
reads that snapshot, if neither of them faults and the first does not begin with an instruction
that waits for a key.  If it does, the two ticks read the snapshot of the keys before they were
pressed and the one that is taken when the second looks for a key, and no other. -/
theorem tap_read (h : Reachable settings c) (hactive : c.active = true)
    (hsteps : 1 ≤ c.stepsPerFrame) {events later : List Operation}
    (hevents : ∀ operation ∈ events, operation.Manual)
    (hlater : ∀ operation ∈ later, operation.Manual) {number : Int}
    (hpress : Operation.press number ∈ events) (hfirst : (c.after events).tick.2 = .ok true)
    (hsecond : ((c.after events).tick.1.after later).tick.2 = .ok true) :
    let d := c.after events
    let e := d.tick.1.after later
    let tap := d.machine.keypad.latch.latched
    tap.get (Key.ofInt number) = true ∧
    (¬ d.machine.BeginsToWait → d.Reads tap ∨ e.Reads tap) ∧
    (d.machine.BeginsToWait → ∀ snapshot, d.Reads snapshot ∨ e.Reads snapshot ↔
      snapshot = d.machine.keypad.latched ∨ snapshot = e.machine.keypad.latch.latched) := by
  intro d e tap
  have hd : Reachable settings d := h.after
  have hdactive : d.active = true := by rw [(still_after_manual hevents).active, hactive]
  have hdsteps : 1 ≤ d.stepsPerFrame := by
    rw [hd.wellFormed.steps, ← h.wellFormed.steps]
    exact hsteps
  have he : Reachable settings e := (hd.apply .tick).after
  have hesteps : 1 ≤ e.stepsPerFrame := by
    rw [he.wellFormed.steps, ← h.wellFormed.steps]
    exact hsteps
  have hstill : Still d.tick.1 e := still_after_manual hlater
  have huntaken : d.tick.1.machine.keypad.Untaken e.machine.keypad := untaken_after hlater
  have heactive : e.active = true := by
    rw [hstill.active, hd.wellFormed.tick_active hdactive hfirst]
  refine ⟨Keypad.get_latch_iff.2 (Or.inr (tapped_after hevents hpress)), ?_, ?_⟩
  · intro hbegins
    rcases latch_read hd hdactive hdsteps hfirst hbegins with hread | ⟨hruns, hlatched⟩
    · exact Or.inl hread
    · refine Or.inr ?_
      have hemode : e.machine.cpu.mode = .running := by rw [hstill.cpu, hruns]
      have htap : e.machine.keypad.latched = tap := by rw [huntaken.latched, hlatched]
      rw [← htap]
      exact reads_latched he heactive hemode hesteps hsecond
  · intro hbegins snapshot
    obtain ⟨⟨x, hwaits⟩, -, hreads⟩ := beginsToWait_tick hd hdactive hbegins hdsteps hfirst
    have hemode : e.machine.cpu.mode = .awaitingKey x := by rw [hstill.cpu, hwaits]
    rw [hreads, reads_iff_of_waiting heactive hemode]

/-! ### A tap that is read and one that is not -/

/-- Key five goes down and up again. -/
def fiveTapped : List Operation := [.press 5, .release 5]

theorem fiveTapped_manual : ∀ operation ∈ fiveTapped, operation.Manual := by
  simp [fiveTapped, Operation.Manual]

/-- A console with a program that jumps to its second instruction, which waits for a key. -/
def jumpAndWait : Console :=
  (unreset pairSettings (.blank 0x204) ⟨0x3F91111111111111⟩ (.silent Speaker.standardVolume)
    (.recording .blank) (.cycle []) []).reset.1.apply (.load [0x12, 0x02, 0xF0, 0x0A])

theorem jumpAndWait_reachable : Reachable pairSettings jumpAndWait :=
  (Reachable.poweredOn pair_poweredOn).apply _

/-- That console after a tap. -/
def tappedInTime : Console := jumpAndWait.after fiveTapped

/-- The jump does not see the tap, but the instruction after it is executed with it. -/
theorem tappedInTime_read :
    ∃ snapshot, (tappedInTime.Reads snapshot ∨ tappedInTime.tick.1.Reads snapshot) ∧
      snapshot.get (Key.ofInt 5) = true := by
  have hsteps : 1 ≤ jumpAndWait.stepsPerFrame := by
    rw [jumpAndWait_reachable.wellFormed.steps]
    decide
  have hpress : Operation.press 5 ∈ fiveTapped := by simp [fiveTapped]
  have hnothing : ∀ operation ∈ ([] : List Operation), operation.Manual := by simp
  have hstarts : jumpAndWait.active = true ∧ tappedInTime.active = true ∧
      tappedInTime.machine.cpu.mode = .running ∧
      tappedInTime.machine.next? = some (.jump 0x202) ∧
      (ended? tappedInTime.stepsPerFrame.toNat tappedInTime.machine).map (·.cpu.mode) =
        some (.awaitingKey 0) := by decide +kernel
  obtain ⟨hactive, htapped, hruns, hnext, hran⟩ := hstarts
  obtain ⟨after, hended, hwaits⟩ := Option.map_eq_some_iff.1 hran
  have hloop := ended?_eq_some.1 hended
  have hbegins : ¬ tappedInTime.machine.BeginsToWait := by
    rintro ⟨-, x, hnext'⟩
    rw [hnext] at hnext'
    cases hnext'
  have hfirst := congrArg Prod.snd (tick_completed htapped hruns hloop)
  obtain ⟨hactive', hmode, -⟩ := tick_completed_state htapped hruns hloop
  have hwaits' : tappedInTime.tick.1.machine.cpu.mode = .awaitingKey 0 := by rw [hmode, hwaits]
  have hsecond := congrArg Prod.snd (tick_waiting hactive' hwaits')
  obtain ⟨htap, hread, -⟩ := tap_read jumpAndWait_reachable hactive hsteps fiveTapped_manual
    hnothing hpress hfirst hsecond
  exact ⟨_, hread hbegins, htap⟩

/-- The small console with a program that waits at once, and a tap before it began. -/
def tappedTooSoon : Console := (small.apply (.load [0xF0, 0x0A])).after fiveTapped

/-- No tick reads that tap. -/
theorem tappedTooSoon_unread :
    Reachable smallSettings (small.apply (.load [0xF0, 0x0A])) ∧ tappedTooSoon.active = true ∧
      1 ≤ tappedTooSoon.stepsPerFrame ∧ tappedTooSoon.tick.2 = .ok true ∧
      tappedTooSoon.tick.1.tick.2 = .ok true ∧
      ∀ snapshot, tappedTooSoon.Reads snapshot ∨ tappedTooSoon.tick.1.Reads snapshot →
        snapshot.get (Key.ofInt 5) = false := by
  have hreachable : Reachable smallSettings tappedTooSoon := (small_load_reachable _).after
  have hsteps : 1 ≤ tappedTooSoon.stepsPerFrame := by
    rw [hreachable.wellFormed.steps]
    decide
  have hstarts : tappedTooSoon.active = true ∧ tappedTooSoon.tick.2 = .ok true ∧
      tappedTooSoon.machine.cpu.mode = .running ∧
      tappedTooSoon.machine.next? = some (.awaitKey 0) ∧
      tappedTooSoon.machine.keypad.latched.get (Key.ofInt 5) = false ∧
      tappedTooSoon.machine.keypad.latch.latch.latched.get (Key.ofInt 5) = false := by
    decide +kernel
  obtain ⟨hactive, hfirst, hruns, hnext, hbefore, hafter⟩ := hstarts
  obtain ⟨⟨x, hwaits⟩, hkeypad, hreads⟩ :=
    beginsToWait_tick hreachable hactive ⟨hruns, 0, hnext⟩ hsteps hfirst
  have hactive' := hreachable.wellFormed.tick_active hactive hfirst
  have hsecond := congrArg Prod.snd (tick_waiting hactive' hwaits)
  refine ⟨small_load_reachable _, hactive, hsteps, hfirst, hsecond, ?_⟩
  rintro snapshot (hread | hread)
  · rw [(hreads snapshot).1 hread, hbefore]
  · rw [(reads_iff_of_waiting hactive' hwaits).1 hread, hkeypad, hafter]

end Console

end ChipEight
