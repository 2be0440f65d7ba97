/-
Waiting for a key.

An instruction can make the processor wait until a key is noticed.  Frames pass meanwhile, but
nothing is executed: `waited` says all that becomes of the console, which is that its timers run
down and its frames are counted.  The frame that notices a key gives it to the register and does
nothing else, so that the next instruction finds the program as the one that waited left it.

That a console that waits was left by such an instruction is proved by induction on how it is
reached.  Loading and resetting end every wait, and no operation begins one but a frame that
executes that instruction.
-/
import ChipEight.Proofs.Keys
import ChipEight.Proofs.LifeCycle

namespace ChipEight

open Machine

variable {size depth : Int}

/-! ### Timers -/

namespace Cpu

variable {c : Cpu}

/-- The processor some ticks later if it executes nothing. -/
def aged (c : Cpu) (ticks : Nat) : Cpu :=
  { c with delay := max 0 (c.delay - ticks), sound := max 0 (c.sound - ticks) }

theorem countDown_eq {timer : Int} (h : 0 ≤ timer) : countDown timer = max 0 (timer - 1) := by
  unfold countDown
  split <;> omega

theorem InRange.decrementTimers_eq (h : c.InRange size depth) : c.decrementTimers = c.aged 1 := by
  rw [Cpu.decrementTimers, countDown_eq h.delay.1, countDown_eq h.sound.1]
  rfl

theorem InRange.aged_zero (h : c.InRange size depth) : c.aged 0 = c := by
  have hdelay : max 0 (c.delay - (0 : Nat)) = c.delay := by have := h.delay.1; omega
  have hsound : max 0 (c.sound - (0 : Nat)) = c.sound := by have := h.sound.1; omega
  rw [aged, hdelay, hsound]

theorem aged_aged (c : Cpu) (first second : Nat) :
    (c.aged first).aged second = c.aged (first + second) := by
  have hsum : ∀ timer : Int,
      max 0 (max 0 (timer - first) - second) = max 0 (timer - (first + second : Nat)) := by
    intro timer
    omega
  simp only [aged, hsum]

end Cpu

/-- A program has the same registers, calls, memory and pixels, and is at the same place. -/
structure Machine.SameProgram (m next : Machine) : Prop where
  v : next.cpu.v = m.cpu.v
  index : next.cpu.index = m.cpu.index
  pc : next.cpu.pc = m.cpu.pc
  stack : next.cpu.stack = m.cpu.stack
  memory : next.memory = m.memory
  pixels : next.screen.pixels = m.screen.pixels

theorem Machine.SameProgram.trans {m next last : Machine} (h : m.SameProgram next)
    (h' : next.SameProgram last) : m.SameProgram last :=
  ⟨h'.v.trans h.v, h'.index.trans h.index, h'.pc.trans h.pc, h'.stack.trans h.stack,
    h'.memory.trans h.memory, h'.pixels.trans h.pixels⟩

namespace Console

variable {settings : Settings} {c : Console} {x : Register} {key : Key}

/-! ### Frames that wait -/

/-- The console after some frames spent waiting, with the keys as they are then. -/
def waited (c : Console) (ticks : Nat) (keys : Keypad) : Console :=
  { c with
    machine := { c.machine with cpu := c.machine.cpu.aged ticks, keypad := keys }
    frames := c.frames + ticks }

/-- The console after the frame that gives a key to the register. -/
def resolved (c : Console) (x : Register) (key : Key) : Console :=
  let next := c.waited 1 c.machine.keypad.latch
  { next with machine := next.machine.onCpu fun cpu =>
      { cpu.setReg x (UInt8.ofNat key) with mode := .running } }

theorem waited_waited (c : Console) (first second : Nat) (keys keys' : Keypad) :
    (c.waited first keys).waited second keys' = c.waited (first + second) keys' := by
  simp only [waited, Cpu.aged_aged, Nat.add_assoc]

theorem ofInt_key : ∀ key : Key, UInt8.ofInt (key : Nat) = UInt8.ofNat key := by decide

theorem tick_unnoticed (h : c.WellFormed settings) (hactive : c.active = true)
    (hwaits : c.machine.cpu.mode = .awaitingKey x)
    (hquiet : ∀ key, ¬ c.machine.keypad.Noticed key) :
    c.tick = (c.waited 1 c.machine.keypad.latch, .ok true) := by
  have hnone : c.machine.latch.keypad.activeKey? = none :=
    Keypad.activeKey?_latch_eq_none_iff.2 hquiet
  have hpoll : pollKeys c.machine = c.machine.latch := by simp only [pollKeys, hnone]
  rw [tick_waiting hactive hwaits, hpoll, waited, ← h.machine.cpu.decrementTimers_eq]
  rfl

/-- The lowest key that is noticed ends the wait. -/
theorem tick_noticed (h : c.WellFormed settings) (hactive : c.active = true)
    (hwaits : c.machine.cpu.mode = .awaitingKey x) (hkey : c.machine.keypad.Noticed key)
    (hlowest : ∀ other < key, ¬ c.machine.keypad.Noticed other) :
    c.tick = (c.resolved x key, .ok true) := by
  have hsome : c.machine.latch.keypad.activeKey? = some key :=
    Keypad.activeKey?_latch_eq_some_iff.2 ⟨hkey, hlowest⟩
  have hmode : c.machine.latch.cpu.mode = .awaitingKey x := hwaits
  have hpoll : pollKeys c.machine = c.machine.latch.onCpu fun cpu =>
      { cpu.setReg x (UInt8.ofNat key) with mode := .running } := by
    simp only [pollKeys, hsome, resolveKey, onCpu, Cpu.resolveKey, hmode, ofInt_key]
  rw [tick_waiting hactive hwaits, hpoll, resolved, waited, ← h.machine.cpu.decrementTimers_eq]
  rfl

/-- A frame of a console that waits is one more spent waiting, or it ends the wait. -/
theorem apply_tick_of_waiting (h : c.WellFormed settings) (hactive : c.active = true)
    (hwaits : c.machine.cpu.mode = .awaitingKey x) :
    c.apply .tick = c.waited 1 c.machine.keypad.latch ∨
      (c.apply .tick).machine.cpu.mode = .running := by
  rw [apply_tick]
  rcases c.machine.keypad.unnoticed_or_lowest with hquiet | ⟨key, hkey, hlowest⟩
  · rw [tick_unnoticed h hactive hwaits hquiet]
    exact Or.inl rfl
  · rw [tick_noticed h hactive hwaits hkey hlowest]
    exact Or.inr rfl

/-- Keys go up and down between frames, and no frame notices one. -/
structure Quiet (c : Console) (operations : List Operation) : Prop where
  kinds : ∀ operation ∈ operations,
    operation = .tick ∨ ∃ number, operation = .press number ∨ operation = .release number
  unnoticed : ∀ earlier later, operations = earlier ++ .tick :: later →
    ∀ key, ¬ (c.after earlier).machine.keypad.Noticed key

theorem Quiet.tail {operation : Operation} {rest : List Operation}
    (h : c.Quiet (operation :: rest)) : (c.apply operation).Quiet rest where
  kinds := fun other hother => h.kinds other (List.mem_cons_of_mem _ hother)
  unnoticed := by
    rintro earlier later rfl
    exact h.unnoticed (operation :: earlier) later rfl

/-- Frames that notice no key change nothing but the timers and the count of frames. -/
theorem after_quiet {operations : List Operation} :
    ∀ {c : Console}, c.WellFormed settings → c.active = true →
      c.machine.cpu.mode = .awaitingKey x → c.Quiet operations →
      c.after operations =
        c.waited (operations.count .tick) (c.after operations).machine.keypad := by
  induction operations with
  | nil =>
      intro c hwell _ _ _
      rw [List.count_nil, waited, hwell.machine.cpu.aged_zero]
      rfl
  | cons operation rest ih =>
      intro c hwell hactive hwaits hquiet
      -- One operation is a frame or a key, and leaves a console that waits as before.
      obtain ⟨ticks, hfirst, hcount⟩ : ∃ ticks,
          c.apply operation = c.waited ticks (c.apply operation).machine.keypad ∧
            (operation :: rest).count .tick = ticks + rest.count .tick := by
        rcases hquiet.kinds operation (by simp) with rfl | ⟨number, rfl | rfl⟩
        · have htick : c.apply .tick = c.waited 1 c.machine.keypad.latch :=
            congrArg Prod.fst (tick_unnoticed hwell hactive hwaits (hquiet.unnoticed [] rest rfl))
          refine ⟨1, ?_, by rw [List.count_cons_self, Nat.add_comm]⟩
          rw [htick]
          rfl
        · refine ⟨0, ?_, by rw [List.count_cons_of_ne (by simp), Nat.zero_add]⟩
          rw [waited, hwell.machine.cpu.aged_zero]
          rfl
        · refine ⟨0, ?_, by rw [List.count_cons_of_ne (by simp), Nat.zero_add]⟩
          rw [waited, hwell.machine.cpu.aged_zero]
          rfl
      have hrest := ih (hwell.apply operation) (by rw [hfirst]; exact hactive)
        (by rw [hfirst]; exact hwaits) hquiet.tail
      show (c.apply operation).after rest =
        c.waited _ ((c.apply operation).after rest).machine.keypad
      rw [hcount, ← waited_waited c ticks _ (c.apply operation).machine.keypad, ← hfirst]
      exact hrest

/-! ### Where a wait comes from -/

theorem sameProgram_waited (c : Console) (ticks : Nat) (keys : Keypad) :
    c.machine.SameProgram (c.waited ticks keys).machine :=
  ⟨rfl, rfl, rfl, rfl, rfl, rfl⟩

theorem Still.sameProgram {next : Console} (h : Still c next) :
    c.machine.SameProgram next.machine :=
  ⟨by rw [h.cpu], by rw [h.cpu], by rw [h.cpu], by rw [h.cpu], h.memory, by rw [h.screen]⟩

/-- A console waits for the key of a register since the instruction at `before` was executed, which
left `left`. -/
inductive WaitsSince (settings : Settings) (x : Register) (before left : Machine) :
    Console → Prop where
  /-- It was the last instruction of a frame. -/
  | begins {start : Console} {executed operand : Nat} (reachable : Reachable settings start)
      (active : start.active = true) (runs : start.machine.cpu.mode = .running)
      (room : executed < start.stepsPerFrame.toNat)
      (executes : Executes executed start.machine before)
      (waits : before.next? = some (.awaitKey x)) (ends : step.run before = .ok operand left) :
      WaitsSince settings x before left start.tick.1
  /-- Something happened that did not end the wait. -/
  | lasts {c : Console} {operation : Operation} (since : WaitsSince settings x before left c)
      (passive : operation.Passive)
      (waits : (c.apply operation).machine.cpu.mode = .awaitingKey x) :
      WaitsSince settings x before left (c.apply operation)

/-- What lasts through a wait: nothing that does not end it changes the program. -/
theorem sameProgram_apply (h : Reachable settings c) (hwaits : c.machine.cpu.mode = .awaitingKey x)
    {operation : Operation} (hpassive : operation.Passive)
    (hwaits' : (c.apply operation).machine.cpu.mode = .awaitingKey x) :
    c.machine.SameProgram (c.apply operation).machine := by
  have hmanual : operation.Manual → c.machine.SameProgram (c.apply operation).machine :=
    fun hmanual => (still_manual hmanual).sameProgram
  cases operation with
  | load program => cases hpassive
  | reset => cases hpassive
  | tick =>
      by_cases hactive : c.active = true
      · rcases apply_tick_of_waiting h.wellFormed hactive hwaits with htick | hruns
        · rw [htick]
          exact sameProgram_waited c 1 _
        · rw [hruns] at hwaits'
          cases hwaits'
      · rw [apply_tick, tick_of_inactive (by simpa using hactive)]
        exact (Still.refl c).sameProgram
  | _ => exact hmanual trivial

/-- A console that waits has the program that the instruction left, and is behind it. -/
theorem WaitsSince.sameProgram {before left : Machine}
    (h : WaitsSince settings x before left c) :
    Reachable settings c ∧ c.machine.cpu.mode = .awaitingKey x ∧ left.SameProgram c.machine ∧
      left.cpu.pc = before.cpu.pc + 2 := by
  induction h with
  | begins reachable active runs room executes waits ends =>
      rcases step_mode ends with ⟨y, hnext, rfl⟩ | ⟨hother, -⟩
      · rw [waits] at hnext
        cases hnext
        have htick := congrArg Prod.fst
          (tick_completed active runs (runSteps_of_waits executes ends rfl room))
        refine ⟨reachable.apply .tick, ?_, ?_, rfl⟩
        · rw [htick]
          rfl
        · rw [htick]
          exact ⟨rfl, rfl, rfl, rfl, rfl, rfl⟩
      · exact absurd waits (hother x)
  | lasts since passive waits ih =>
      obtain ⟨hreachable, hwaits, hsame, hpc⟩ := ih
      exact ⟨hreachable.apply _, waits,
        hsame.trans (sameProgram_apply hreachable hwaits passive waits), hpc⟩

theorem poweredOn?_inactive {speaker : Speaker} {display : Display} {random : RandomSource}
    {log : List DeviceCall} (on : poweredOn? settings speaker display random log = .ok c) :
    c.active = false := by
  obtain ⟨memory, interval, hwell, hreset⟩ := poweredOn?_reset on
  have hafter := hwell.reset_eq
  rw [hreset] at hafter
  cases hafter
  rfl

/-- A frame that leaves an active console waiting, and did not find it so, ended with an
instruction that waits. -/
theorem waitsSince_tick (h : Reachable settings c) (hactive : c.active = true)
    (hruns : c.machine.cpu.mode = .running) (hactive' : c.tick.1.active = true)
    (hwaits : c.tick.1.machine.cpu.mode = .awaitingKey x) :
    ∃ before left, WaitsSince settings x before left c.tick.1 := by
  obtain ⟨answer, hanswer, hframe⟩ := tick_frame h.wellFormed.machine
  have htrue : answer = true := by
    have hboth := hframe.active_eq
    rw [hactive', hactive, Bool.true_and] at hboth
    exact hboth.symm
  rw [htrue] at hanswer
  obtain ⟨after, hran, htick⟩ := runSteps_of_tick h.wellFormed.machine hactive hruns hanswer
  have hrunning : c.machine.cpu.running = true := decide_eq_true hruns
  have hafter : after.cpu.mode = .awaitingKey x := by
    rw [htick] at hwaits
    exact hwaits
  rcases runSteps_ok hran with
    hall | ⟨executed, before, operand, left, hroom, hexecutes, hstep, -, rfl⟩
  · have hgoes := hall.running hrunning
    rw [Cpu.running, hafter] at hgoes
    cases hgoes
  · have hbefore : before.cpu.mode = .running := of_decide_eq_true (hexecutes.running hrunning)
    obtain ⟨hnext, -⟩ := step_waits hstep hbefore hafter
    exact ⟨before, left, .begins h hactive hruns hroom hexecutes hnext hstep⟩

theorem exists_waitsSince (h : Reachable settings c) :
    c.active = true → c.machine.cpu.mode = .awaitingKey x →
      ∃ before left, WaitsSince settings x before left c := by
  induction h with
  | poweredOn on =>
      intro hactive _
      rw [poweredOn?_inactive on] at hactive
      cases hactive
  | @apply c reachable operation ih =>
      intro hactive hwaits
      have hwell := reachable.wellFormed
      have hlasts : operation.Passive → c.active = true → c.machine.cpu.mode = .awaitingKey x →
          ∃ before left, WaitsSince settings x before left (c.apply operation) := by
        intro hpassive hactive' hwaits'
        obtain ⟨before, left, hsince⟩ := ih hactive' hwaits'
        exact ⟨before, left, .lasts hsince hpassive hwaits⟩
      have hmanual : operation.Manual →
          ∃ before left, WaitsSince settings x before left (c.apply operation) := by
        intro hmanual
        have hstill : Still c (c.apply operation) := still_manual hmanual
        exact hlasts hmanual.passive (by rw [← hstill.active, hactive])
          (by rw [← hstill.cpu, hwaits])
      cases operation with
      | load program =>
          rw [apply, hwell.load_cpu] at hwaits
          cases hwaits
      | reset =>
          rw [apply, hwell.reset_cpu] at hwaits
          cases hwaits
      | tick =>
          by_cases hbefore : c.active = true
          · cases hmode : c.machine.cpu.mode with
            | running => exact waitsSince_tick reachable hbefore hmode hactive hwaits
            | awaitingKey y =>
                rcases apply_tick_of_waiting hwell hbefore hmode with htick | hruns
                · rw [htick] at hwaits
                  exact hlasts trivial hbefore hwaits
                · rw [hruns] at hwaits
                  cases hwaits
          · rw [apply_tick, tick_of_inactive (by simpa using hbefore)] at hactive
            exact absurd hactive hbefore
      | _ => exact hmanual trivial

/-! ### The whole wait -/

theorem reg_resolved_self : ((c.resolved x key).machine.cpu.reg x).toNat = key := by
  have hreg : (c.resolved x key).machine.cpu.reg x = UInt8.ofNat key :=
    (Cpu.reg_setReg _ x x _).trans (if_pos rfl)
  rw [hreg, UInt8.toNat_ofNat']
  omega

theorem reg_resolved_ne {y : Register} (h : y ≠ x) :
    (c.resolved x key).machine.cpu.reg y = c.machine.cpu.reg y :=
  (Cpu.reg_setReg _ x y _).trans (if_neg h)

/-- **Waiting for a key.**  A console that waits was left so by an instruction that waits.  As long
as no frame notices a key, frames change nothing but the timers, the count of frames and the
snapshot of the keys.  The first frame that notices one gives the lowest to the register, and
executes nothing: the processor runs again behind the instruction that waited, and everything
but that register is as the instruction left it. -/
theorem keyWait_protocol (h : Reachable settings c) (hactive : c.active = true)
    (hwaits : c.machine.cpu.mode = .awaitingKey x) :
    (∃ before left, WaitsSince settings x before left c) ∧
    ∀ operations, c.Quiet operations →
      let d := c.after operations
      d = c.waited (operations.count .tick) d.machine.keypad ∧
      ((∀ key, ¬ d.machine.keypad.Noticed key) →
        d.tick = (d.waited 1 { d.machine.keypad with latched := Vector.replicate 16 false },
          .ok true)) ∧
      (¬ (∀ key, ¬ d.machine.keypad.Noticed key) →
        ∃ key, d.machine.keypad.Noticed key ∧
          (∀ other < key, ¬ d.machine.keypad.Noticed other) ∧
          d.tick = (d.resolved x key, .ok true) ∧
          (d.tick.1.machine.cpu.reg x).toNat = key ∧
          d.tick.1.machine.cpu.running = true ∧
          ∀ before left, WaitsSince settings x before left c →
            d.tick.1.machine.cpu.pc = before.cpu.pc + 2 ∧
            d.tick.1.machine.cpu.pc = left.cpu.pc ∧
            d.tick.1.machine.cpu.index = left.cpu.index ∧
            d.tick.1.machine.cpu.stack = left.cpu.stack ∧
            d.tick.1.machine.memory = left.memory ∧
            d.tick.1.machine.screen.pixels = left.screen.pixels ∧
            ∀ y, y ≠ x → d.tick.1.machine.cpu.reg y = left.cpu.reg y) := by
  refine ⟨exists_waitsSince h hactive hwaits, ?_⟩
  intro operations hquiet d
  have hd : Reachable settings d := h.after
  have hwaited : d = c.waited (operations.count .tick) d.machine.keypad :=
    after_quiet h.wellFormed hactive hwaits hquiet
  have hdactive : d.active = true := by rw [hwaited]; exact hactive
  have hdwaits : d.machine.cpu.mode = .awaitingKey x := by rw [hwaited]; exact hwaits
  refine ⟨hwaited, ?_, ?_⟩
  · intro hunnoticed
    rw [tick_unnoticed hd.wellFormed hdactive hdwaits hunnoticed,
      Keypad.latch_of_unnoticed hunnoticed]
  · intro hnoticed
    obtain ⟨key, hkey, hlowest⟩ := d.machine.keypad.unnoticed_or_lowest.resolve_left hnoticed
    have htick := tick_noticed hd.wellFormed hdactive hdwaits hkey hlowest
    refine ⟨key, hkey, hlowest, htick, ?_⟩
    rw [htick]
    refine ⟨reg_resolved_self, rfl, ?_⟩
    intro before left hsince
    obtain ⟨-, -, hsame, hbehind⟩ := hsince.sameProgram
    have hdsame : left.SameProgram d.machine :=
      hsame.trans (hwaited ▸ sameProgram_waited c _ d.machine.keypad)
    refine ⟨hdsame.pc.trans hbehind, hdsame.pc, hdsame.index, hdsame.stack, hdsame.memory,
      hdsame.pixels, ?_⟩
    intro y hy
    rw [reg_resolved_ne hy, Cpu.reg, hdsame.v]
    rfl

/-- The small console after a program of one instruction, which waits for a key in `V5`. -/
def waiting : Console := (small.apply (.load [0xF5, 0x0A])).apply .tick

theorem waiting_state :
    Reachable smallSettings waiting ∧ waiting.active = true ∧
      waiting.machine.cpu.mode = .awaitingKey 5 ∧ waiting.machine.keypad = .released := by
  have hreachable := small_load_reachable [0xF5, 0x0A]
  have hstarts : (small.apply (.load [0xF5, 0x0A])).active = true ∧
      (small.apply (.load [0xF5, 0x0A])).machine.cpu.mode = .running ∧
      (ended? (small.apply (.load [0xF5, 0x0A])).stepsPerFrame.toNat
          (small.apply (.load [0xF5, 0x0A])).machine).map
        (fun after => (after.cpu.mode, after.keypad)) = some (.awaitingKey 5, .released) := by
    decide +kernel
  obtain ⟨hactive, hruns, hran⟩ := hstarts
  obtain ⟨after, hended, hstate⟩ := Option.map_eq_some_iff.1 hran
  rw [Prod.mk.injEq] at hstate
  obtain ⟨hactive', hmode, hkeypad⟩ :=
    tick_completed_state hactive hruns (ended?_eq_some.1 hended)
  rw [waiting, apply_tick, hmode, hkeypad]
  exact ⟨hreachable.apply .tick, hactive', hstate⟩

/-- A frame without a key and then a key: a wait that the next frame ends. -/
theorem quiet_of_released (h : c.WellFormed settings) (hactive : c.active = true)
    (hwaits : c.machine.cpu.mode = .awaitingKey x) (hkeypad : c.machine.keypad = .released)
    (number : Int) :
    c.Quiet [.tick, .press number] ∧ (c.after [.tick, .press number]).machine.keypad =
      Keypad.released.latch.setKey number true := by
  have hunnoticed : ∀ key, ¬ c.machine.keypad.Noticed key := by
    rw [hkeypad]
    decide
  refine ⟨⟨by simp, ?_⟩, ?_⟩
  · intro earlier later hsplit
    cases earlier with
    | nil => exact hunnoticed
    | cons first rest =>
        -- The other operation is no frame.
        obtain ⟨-, hrest⟩ := List.cons_eq_cons.1 hsplit
        cases rest <;> simp at hrest
  · show c.tick.1.machine.keypad.setKey number true = _
    rw [tick_unnoticed h hactive hwaits hunnoticed, ← hkeypad]
    rfl

/-- The wait lasts for a frame, and then key nine ends it. -/
theorem waiting_resolved :
    waiting.Quiet [.tick, .press 9] ∧
      ((waiting.after [.tick, .press 9]).tick.1.machine.cpu.reg 5).toNat = 9 := by
  obtain ⟨hreachable, hactive, hwaits, hkeypad⟩ := waiting_state
  obtain ⟨hquiet, hkeys⟩ := quiet_of_released hreachable.wellFormed hactive hwaits hkeypad 9
  refine ⟨hquiet, ?_⟩
  obtain ⟨-, hwait⟩ := keyWait_protocol hreachable hactive hwaits
  obtain ⟨-, -, hnoticed⟩ := hwait [.tick, .press 9] hquiet
  rw [hkeys] at hnoticed
  obtain ⟨key, hkey, -, -, hreg, -⟩ := hnoticed (by decide)
  have hnine : ∀ key, (Keypad.released.latch.setKey 9 true).Noticed key → key = 9 := by decide
  rw [hreg, hnine key hkey]
  rfl

end Console

end ChipEight
