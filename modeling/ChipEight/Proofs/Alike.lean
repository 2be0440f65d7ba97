/-
Machines that a program cannot tell apart.

Two machines are `Alike` when they have everything in common but the timers, the changes that are
pending, the speaker and the log.  Of these a program can see one only, the delay timer, and there
is one instruction that looks at it.  So as long as no such instruction is executed, machines that
are alike do the same: they execute the same instructions, they fault in the same place, and they
stay alike.

The proof is a simulation.  An instruction that comes to its end leaves machines alike, which is
said constructor by constructor of `Completes`; and what makes it fail is the same for both, so
that both steps come to their end or both fault.  Loops follow by induction.
-/
import ChipEight.Proofs.Executions

namespace ChipEight

/-! ### Pictures -/

namespace Screen

variable {s other : Screen}

theorem SamePicture.exists_eq (h : s.SamePicture other) :
    ∃ pending, other = { s with pending := pending } := by
  obtain ⟨hwidth, hheight, hpixels⟩ := h
  refine ⟨other.pending, ?_⟩
  rw [← hwidth, ← hheight, ← hpixels]

theorem flipAll_withPending (hits : List Int) :
    ∀ (s : Screen) pending, ∃ after, ({ s with pending := pending } : Screen).flipAll hits =
      ({ (s.flipAll hits).1 with pending := after }, (s.flipAll hits).2) := by
  induction hits with
  | nil => intro s pending; exact ⟨pending, rfl⟩
  | cons index rest ih =>
      intro s pending
      obtain ⟨after, hrest⟩ := ih (s.flip index) (pending.insert index !s.lit index)
      exact ⟨after, congrArg (fun drawn => (drawn.1, s.lit index || drawn.2)) hrest⟩

/-- What is pending decides nothing about a drawing but what is pending afterwards. -/
theorem drawSprite?_withPending (x : Int) (rows : List UInt8) :
    ∀ (s : Screen) pending y drawn, s.drawSprite? x y rows = some drawn →
      ∃ after, ({ s with pending := pending } : Screen).drawSprite? x y rows =
        some ({ drawn.1 with pending := after }, drawn.2) := by
  induction rows with
  | nil =>
      intro s pending y drawn hdrawn
      cases hdrawn
      exact ⟨pending, rfl⟩
  | cons row rest ih =>
      intro s pending y drawn hdrawn
      simp only [drawSprite?, drawRow?] at hdrawn
      cases hhits : s.rowHits? x y row.toNat with
      | none =>
          rw [hhits] at hdrawn
          cases hdrawn
      | some hits =>
          have hhits' : ({ s with pending := pending } : Screen).rowHits? x y row.toNat =
              some hits := hhits
          obtain ⟨between, hhere⟩ := flipAll_withPending hits s pending
          simp only [hhits, Option.map_some, Option.bind_eq_bind, Option.bind_some] at hdrawn
          cases hbelow : (s.flipAll hits).1.drawSprite? x (y + 1) rest with
          | none =>
              rw [hbelow] at hdrawn
              cases hdrawn
          | some below =>
              rw [hbelow] at hdrawn
              cases hdrawn
              obtain ⟨after, hrest⟩ := ih _ between (y + 1) below hbelow
              refine ⟨after, ?_⟩
              simp only [drawSprite?, drawRow?, hhits', hhere, hrest, Option.map_some,
                Option.bind_eq_bind, Option.bind_some]
              rfl

theorem SamePicture.drawSprite? (h : s.SamePicture other) {x y : Int} {rows : List UInt8}
    {drawn drawn' : Screen × Bool} (hdrawn : s.drawSprite? x y rows = some drawn)
    (hdrawn' : other.drawSprite? x y rows = some drawn') :
    drawn.1.SamePicture drawn'.1 ∧ drawn'.2 = drawn.2 := by
  obtain ⟨pending, rfl⟩ := h.exists_eq
  obtain ⟨after, hother⟩ := drawSprite?_withPending x rows s pending y drawn hdrawn
  rw [hother] at hdrawn'
  cases hdrawn'
  exact ⟨⟨rfl, rfl, rfl⟩, rfl⟩

theorem SamePicture.complete (h : s.SamePicture other) (hs : s.Complete) : other.Complete := by
  obtain ⟨pending, rfl⟩ := h.exists_eq
  exact ⟨hs.width_pos, hs.height_pos, hs.size⟩

end Screen

/-! ### Machines -/

/-- Two machines have everything in common but the timers, the pending changes, the speaker and the
log. -/
structure Machine.Alike (m other : Machine) : Prop where
  v : other.cpu.v = m.cpu.v
  index : other.cpu.index = m.cpu.index
  pc : other.cpu.pc = m.cpu.pc
  stack : other.cpu.stack = m.cpu.stack
  operand : other.cpu.operand = m.cpu.operand
  mode : other.cpu.mode = m.cpu.mode
  memory : other.memory = m.memory
  picture : m.screen.SamePicture other.screen
  keypad : other.keypad = m.keypad
  stackDepth : other.stackDepth = m.stackDepth
  random : other.random = m.random

namespace Machine

open Machine.Action Instruction

variable {m m' after after' : Machine} {instruction : Instruction} {word : Nat} {fault : Fault}

theorem Alike.refl (m : Machine) : m.Alike m :=
  ⟨rfl, rfl, rfl, rfl, rfl, rfl, rfl, ⟨rfl, rfl, rfl⟩, rfl, rfl, rfl⟩

theorem Alike.symm (h : m.Alike m') : m'.Alike m :=
  ⟨h.v.symm, h.index.symm, h.pc.symm, h.stack.symm, h.operand.symm, h.mode.symm, h.memory.symm,
    ⟨h.picture.width.symm, h.picture.height.symm, h.picture.pixels.symm⟩, h.keypad.symm,
    h.stackDepth.symm, h.random.symm⟩

theorem Alike.trans {last : Machine} (h : m.Alike m') (h' : m'.Alike last) : m.Alike last :=
  ⟨h'.v.trans h.v, h'.index.trans h.index, h'.pc.trans h.pc, h'.stack.trans h.stack,
    h'.operand.trans h.operand, h'.mode.trans h.mode, h'.memory.trans h.memory,
    ⟨h'.picture.width.trans h.picture.width, h'.picture.height.trans h.picture.height,
      h'.picture.pixels.trans h.picture.pixels⟩, h'.keypad.trans h.keypad,
    h'.stackDepth.trans h.stackDepth, h'.random.trans h.random⟩

/-- The machine with other timers, another speaker, another log and something else pending. -/
def varied (m : Machine) (delay sound : Int) (pending : Std.TreeMap Int Bool)
    (speaker : Option Speaker) (log : Array DeviceCall) : Machine :=
  { m with
    cpu := { m.cpu with delay := delay, sound := sound }
    screen := { m.screen with pending := pending }
    speaker := speaker
    log := log }

theorem alike_varied {delay sound : Int} {pending : Std.TreeMap Int Bool}
    {speaker : Option Speaker} {log : Array DeviceCall} :
    m.Alike (m.varied delay sound pending speaker log) :=
  ⟨rfl, rfl, rfl, rfl, rfl, rfl, rfl, ⟨rfl, rfl, rfl⟩, rfl, rfl, rfl⟩

theorem Alike.exists_eq (h : m.Alike m') :
    ∃ delay sound pending speaker log, m' = m.varied delay sound pending speaker log := by
  obtain ⟨⟨v, index, pc, delay, sound, stack, operand, mode⟩, memory, screen, keypad, speaker,
    stackDepth, random, log⟩ := m'
  obtain ⟨rfl, rfl, rfl, rfl, rfl, rfl, rfl, hpicture, rfl, rfl, rfl⟩ := h
  obtain ⟨pending, rfl⟩ := hpicture.exists_eq
  exact ⟨delay, sound, pending, speaker, log, rfl⟩

theorem Alike.latch (h : m.Alike m') : m.latch.Alike m'.latch := by
  obtain ⟨delay, sound, pending, speaker, log, rfl⟩ := h.exists_eq
  exact alike_varied

theorem Alike.beginning (h : m.Alike m') (word : Nat) :
    (m.beginning word).Alike (m'.beginning word) := by
  obtain ⟨delay, sound, pending, speaker, log, rfl⟩ := h.exists_eq
  exact alike_varied

theorem alike_onSpeaker (m : Machine) (action : Speaker → Speaker × List DeviceCall) :
    m.Alike (m.onSpeaker action) := by
  refine ⟨?_, ?_, ?_, ?_, ?_, ?_, onSpeaker_memory _ _, ?_, onSpeaker_keypad _ _,
    onSpeaker_stackDepth _ _, onSpeaker_random _ _⟩
  all_goals simp only [onSpeaker_cpu, onSpeaker_screen]
  exact ⟨rfl, rfl, rfl⟩

/-! ### Instructions -/

theorem compute_varied (c : Cpu) (computation : Computation) (x y : Register) (delay sound : Int) :
    ({ c with delay := delay, sound := sound } : Cpu).compute computation x y =
      { c.compute computation x y with delay := delay, sound := sound } := by
  have hvaried :=
    Cpu.onRegisters_compute computation x y c { c with delay := delay, sound := sound } rfl
  rw [Cpu.compute_eq c]
  exact hvaried

theorem Alike.holds_eq (h : m.Alike m') (condition : Condition) :
    m'.holds condition = m.holds condition :=
  holds_congr h.v h.keypad condition

/-- An instruction leaves machines alike, if they do not differ in what it reads. -/
theorem Completes.alike (h : Completes m instruction after)
    (h' : Completes m' instruction after') (hm : m.Alike m')
    (hdelay : ∀ x, instruction = .readDelay x → m'.cpu.delay = m.cpu.delay) :
    after.Alike after' := by
  have hholds := hm.holds_eq
  have hpicture := hm.picture
  obtain ⟨delay, sound, pending, speaker, log, rfl⟩ := hm.exists_eq
  cases h with
  | clear => cases h'; exact alike_varied
  | ret calls =>
      cases h' with
      | ret calls' =>
          cases calls.symm.trans calls'
          exact alike_varied
  | jump => cases h'; exact alike_varied
  | call => cases h'; exact alike_varied
  | @skip condition holds =>
      cases h' with
      | skip => exact alike_varied
      | goOn fails =>
          rw [hholds, holds] at fails
          cases fails
  | goOn fails =>
      cases h' with
      | skip holds =>
          rw [hholds, fails] at holds
          cases holds
      | goOn => exact alike_varied
  | load => cases h'; exact alike_varied
  | add => cases h'; exact alike_varied
  | @compute computation x y =>
      cases h'
      have hcompute := compute_varied m.cpu computation x y delay sound
      refine ⟨?_, ?_, ?_, ?_, ?_, ?_, rfl, hpicture, rfl, rfl, rfl⟩
      all_goals simp only [onCpu_cpu, varied, hcompute]
  | loadIndex => cases h'; exact alike_varied
  | jumpAhead => cases h'; exact alike_varied
  | random => cases h'; exact alike_varied
  | draw read drawn =>
      cases h' with
      | draw read' drawn' =>
          cases read.symm.trans read'
          obtain ⟨hdrawn, hcollision⟩ := hpicture.drawSprite? drawn drawn'
          cases hcollision
          exact ⟨rfl, rfl, rfl, rfl, rfl, rfl, rfl, hdrawn, rfl, rfl, rfl⟩
  | @readDelay x =>
      cases h'
      have hsame := hdelay x rfl
      refine ⟨?_, rfl, rfl, rfl, rfl, rfl, rfl, hpicture, rfl, rfl, rfl⟩
      simp only [onCpu_cpu, hsame]
      rfl
  | awaitKey => cases h'; exact alike_varied
  | setDelay => cases h'; exact alike_varied
  | silence zero =>
      cases h' with
      | silence => exact alike_varied
      | sound nonzero => exact absurd zero nonzero
  | sound nonzero =>
      cases h' with
      | silence zero => exact absurd zero nonzero
      | sound => exact (alike_onSpeaker _ _).symm.trans (alike_varied.trans (alike_onSpeaker _ _))
  | addIndex => cases h'; exact alike_varied
  | loadDigit => cases h'; exact alike_varied
  | storeDecimal stored =>
      cases h' with
      | storeDecimal stored' =>
          cases stored.symm.trans stored'
          exact alike_varied
  | store stored =>
      cases h' with
      | store stored' =>
          cases stored.symm.trans stored'
          exact alike_varied
  | restore read =>
      cases h' with
      | restore read' =>
          cases read.symm.trans read'
          exact alike_varied

/-! ### Steps -/

/-- Two actions end alike: both came to their end with the same answer, or both in the same
fault. -/
inductive SameEnd {α : Type} :
    EStateM.Result Stop Machine α → EStateM.Result Stop Machine α → Prop
  | ok (answer : α) {after after' : Machine} (alike : after.Alike after') :
      SameEnd (.ok answer after) (.ok answer after')
  | fault (fault : Fault) {after after' : Machine} (alike : after.Alike after') :
      SameEnd (.error (.fault fault) after) (.error (.fault fault) after')

theorem SameEnd.symm {α : Type} {result result' : EStateM.Result Stop Machine α}
    (h : SameEnd result result') : SameEnd result' result := by
  cases h with
  | ok answer alike => exact .ok answer alike.symm
  | fault fault alike => exact .fault fault alike.symm

theorem Alike.next? (h : m.Alike m') : m'.next? = m.next? := by
  rw [Machine.next?, Machine.next?, h.memory, h.pc]

/-- Steps of machines that are alike end alike, unless they look at timers that differ. -/
theorem Alike.step (h : m.Alike m') (hscreen : m.screen.Complete)
    (hdelay : ∀ {answer after} x, Machine.step.run m = .ok answer after →
      m.next? = some (.readDelay x) → m'.cpu.delay = m.cpu.delay) :
    SameEnd (Machine.step.run m) (Machine.step.run m') := by
  have htogether := step_together h.memory h.pc h.index h.stack h.stackDepth hscreen
    (h.picture.complete hscreen)
  generalize hrun : Machine.step.run m = result at htogether hdelay ⊢
  generalize Machine.step.run m' = result' at htogether
  cases htogether with
  | unfetched fault => exact .fault fault h
  | obstructed word fault =>
      refine .fault fault ?_
      obtain ⟨delay, sound, pending, speaker, log, rfl⟩ := h.exists_eq
      exact alike_varied
  | completed word next completes completes' =>
      refine .ok word (completes.alike completes' (h.beginning word) ?_)
      rintro x rfl
      exact hdelay x rfl next

/-! ### Loops -/

/-- Machines that are alike execute the same instructions and end alike, if none of these looks at
the delay timer. -/
theorem Alike.runSteps (n : Nat) :
    ∀ {m m' : Machine}, m.Alike m' → m.screen.Complete →
      Execution.Untimed (m.executions n) →
      m'.executions n = m.executions n ∧
        SameEnd ((Console.runSteps n).run m) ((Console.runSteps n).run m') := by
  induction n with
  | zero =>
      intro m m' h _ _
      exact ⟨rfl, .ok () h⟩
  | succ n ih =>
      intro m m' h hscreen huntimed
      have hstep : SameEnd (Machine.step.run m) (Machine.step.run m') := by
        refine h.step hscreen ?_
        intro answer after x hrun hnext
        obtain ⟨instruction, hnext', -, hlist⟩ := executions_of_ok hrun
        rw [hnext, Option.some_inj] at hnext'
        rw [hlist, ← hnext'] at huntimed
        exact absurd ⟨x, rfl⟩ (huntimed _ List.mem_cons_self)
      rw [Console.run_runSteps_succ, Console.run_runSteps_succ]
      generalize hrun : Machine.step.run m = first at hstep
      generalize hrun' : Machine.step.run m' = first' at hstep
      cases hstep with
      | fault fault alike =>
          rw [executions_of_error hrun, executions_of_error hrun']
          exact ⟨rfl, .fault fault alike⟩
      | @ok answer after after' alike =>
          obtain ⟨instruction, hnext, -, hlist⟩ := executions_of_ok hrun
          obtain ⟨instruction', hnext', -, hlist'⟩ := executions_of_ok hrun'
          rw [h.next?, hnext, Option.some_inj] at hnext'
          rw [hlist, hlist', h.v, ← hnext']
          rw [hlist] at huntimed
          have hruns : after'.cpu.running = after.cpu.running := by
            rw [Cpu.running, Cpu.running, alike.mode]
          by_cases hgoes : after.cpu.running = true
          · have hgoes' : after'.cpu.running = true := hruns.trans hgoes
            rw [if_pos hgoes] at huntimed
            simp only [if_pos hgoes, if_pos hgoes']
            have hcomplete : after.screen.Complete :=
              step_screen Screen.keptByDrawing_complete hrun hscreen
            have hlatched : after.latch.screen.Complete := hcomplete
            obtain ⟨hsame, hend⟩ := ih alike.latch hlatched
              fun e he => huntimed e (List.mem_cons_of_mem _ he)
            exact ⟨by rw [hsame], hend⟩
          · have hgoes' : ¬ after'.cpu.running = true := by rwa [hruns]
            simp only [if_neg hgoes, if_neg hgoes']
            exact ⟨trivial, .ok () alike.latch⟩

end Machine

end ChipEight
