/-
The laws of actions.

How a sequence ends is decided by how its parts end, and how a single action ends by the
machine it begins with.  That is all that opening an action comes to.  What the changes that
actions make leave alone comes before that.

`Ensures` is the law that invariants are carried along by: begun where a condition holds,
an action does not crash, and where it comes to its end another condition holds.  Nothing
is said there about faults.  What those leave behind is the business of whoever raised
them.
-/
import ChipEight.Machine.Execute

namespace ChipEight

namespace Cpu

/-! ### Changes of the registers -/

theorem reg_setReg (c : Cpu) (x y : Register) (value : UInt8) :
    (c.setReg x value).reg y = if y = x then value else c.reg y := by
  have hset : (c.setReg x value).reg y = if (x : Nat) = y then value else c.reg y :=
    Vector.getElem_set x.isLt y.isLt
  rw [hset]
  simp only [Fin.ext_iff, eq_comm]

theorem reg_setFirstRegs (c : Cpu) (x y : Register) (values : List UInt8) :
    (c.setFirstRegs x values).reg y = if y ≤ x then values.getD y 0 else c.reg y :=
  Vector.getElem_ofFn y.isLt

/-- Whether a change reads nothing but the registers, and writes nothing else. -/
def OnRegisters (change : Cpu → Cpu) : Prop :=
  ∀ c c' : Cpu, c'.v = c.v → change c' = { c' with v := (change c).v }

theorem onRegisters_compute (computation : Computation) (x y : Register) :
    OnRegisters (·.compute computation x y) := by
  intro c c' hv
  have hreg : ∀ z, c'.reg z = c.reg z := fun z => by rw [reg, reg, hv]
  simp only [compute, hreg]
  split <;> simp only [setFlag, setReg, hv]

theorem onRegisters_setFirstRegs (x : Register) (values : List UInt8) :
    OnRegisters (·.setFirstRegs x values) := by
  intro c c' hv
  simp only [setFirstRegs, reg, hv]

theorem compute_eq (c : Cpu) (computation : Computation) (x y : Register) :
    c.compute computation x y = { c with v := (c.compute computation x y).v } :=
  onRegisters_compute computation x y c c rfl

theorem setFirstRegs_eq (c : Cpu) (x : Register) (values : List UInt8) :
    c.setFirstRegs x values = { c with v := (c.setFirstRegs x values).v } :=
  onRegisters_setFirstRegs x values c c rfl

end Cpu

namespace Machine

/-! ### What a change leaves alone -/

section

variable (m : Machine) (change : Cpu → Cpu)

@[simp] theorem onCpu_cpu : (m.onCpu change).cpu = change m.cpu := rfl

@[simp] theorem onCpu_memory : (m.onCpu change).memory = m.memory := rfl

@[simp] theorem onCpu_screen : (m.onCpu change).screen = m.screen := rfl

@[simp] theorem onCpu_keypad : (m.onCpu change).keypad = m.keypad := rfl

@[simp] theorem onCpu_speaker : (m.onCpu change).speaker = m.speaker := rfl

@[simp] theorem onCpu_stackDepth : (m.onCpu change).stackDepth = m.stackDepth := rfl

@[simp] theorem onCpu_random : (m.onCpu change).random = m.random := rfl

@[simp] theorem onCpu_log : (m.onCpu change).log = m.log := rfl

end

section

variable (m : Machine) (action : Speaker → Speaker × List DeviceCall)

@[simp] theorem onSpeaker_cpu : (m.onSpeaker action).cpu = m.cpu := by
  unfold onSpeaker
  split <;> rfl

@[simp] theorem onSpeaker_memory : (m.onSpeaker action).memory = m.memory := by
  unfold onSpeaker
  split <;> rfl

@[simp] theorem onSpeaker_screen : (m.onSpeaker action).screen = m.screen := by
  unfold onSpeaker
  split <;> rfl

@[simp] theorem onSpeaker_keypad : (m.onSpeaker action).keypad = m.keypad := by
  unfold onSpeaker
  split <;> rfl

@[simp] theorem onSpeaker_stackDepth : (m.onSpeaker action).stackDepth = m.stackDepth := by
  unfold onSpeaker
  split <;> rfl

@[simp] theorem onSpeaker_random : (m.onSpeaker action).random = m.random := by
  unfold onSpeaker
  split <;> rfl

@[simp] theorem onSpeaker_speaker :
    (m.onSpeaker action).speaker = m.speaker.map fun speaker => (action speaker).1 := by
  unfold onSpeaker
  split
  · rename_i hnone
    rw [hnone]
    rfl
  · rename_i speaker hsome
    rw [hsome]
    rfl

theorem onSpeaker_withMemory (memory : Memory) :
    { m.onSpeaker action with memory := memory } =
      ({ m with memory := memory } : Machine).onSpeaker action := by
  cases m with
  | mk cpu before screen keypad speaker stackDepth random log => cases speaker <;> rfl

end

namespace Action

variable {α β : Type}

/-! ### How a sequence ends -/

theorem run_bind_ok {first : Action α} {next : α → Action β} {m after : Machine} {b : β}
    (h : (first >>= next).run m = .ok b after) :
    ∃ a between, first.run m = .ok a between ∧ (next a).run between = .ok b after := by
  rw [EStateM.run_bind] at h
  cases hfirst : first.run m with
  | ok a between =>
      rw [hfirst] at h
      exact ⟨a, between, rfl, h⟩
  | error stop between =>
      rw [hfirst] at h
      cases h

theorem run_bind_error {first : Action α} {next : α → Action β} {m after : Machine} {stop : Stop}
    (h : (first >>= next).run m = .error stop after) :
    first.run m = .error stop after ∨
      ∃ a between, first.run m = .ok a between ∧ (next a).run between = .error stop after := by
  rw [EStateM.run_bind] at h
  cases hfirst : first.run m with
  | ok a between =>
      rw [hfirst] at h
      exact Or.inr ⟨a, between, rfl, h⟩
  | error stop' between =>
      rw [hfirst] at h
      cases h
      exact Or.inl rfl

/-! ### How the single actions run -/

@[simp] theorem run_raise (fault : Fault) (m : Machine) :
    (raise fault : Action α).run m = .error (.fault fault) m := rfl

@[simp] theorem run_getCpu (m : Machine) : getCpu.run m = .ok m.cpu m := rfl

@[simp] theorem run_modifyCpu (change : Cpu → Cpu) (m : Machine) :
    (modifyCpu change).run m = .ok () (m.onCpu change) := rfl

@[simp] theorem run_drawRandom (m : Machine) :
    drawRandom.run m = .ok m.random.next { m with random := m.random.advance } := rfl

theorem run_askMemory (question : Memory → Except Fault α) (m : Machine) :
    (askMemory question).run m =
      match question m.memory with
      | .error fault => .error (.fault fault) m
      | .ok answer => .ok answer m := by
  simp only [askMemory, EStateM.run_bind, EStateM.run_get]
  cases question m.memory <;> rfl

theorem run_store (address : Int) (values : List UInt8) (m : Machine) :
    (store address values).run m =
      match m.memory.store address values with
      | .error fault => .error (.fault fault) m
      | .ok memory => .ok () { m with memory := memory } := by
  simp only [store, EStateM.run_bind, run_askMemory]
  cases m.memory.store address values <;> rfl

theorem run_drawSprite (x y : Int) (rows : List UInt8) (m : Machine) :
    (drawSprite x y rows).run m =
      match m.screen.drawSprite? x y rows with
      | none => .error (.crash .noPixel) m
      | some drawn => .ok drawn.2 { m with screen := drawn.1 } := by
  simp only [drawSprite, EStateM.run_bind, EStateM.run_get]
  cases m.screen.drawSprite? x y rows <;> rfl

/-- A byte of ticks is never too long to be told, so there is no crash. -/
@[simp] theorem run_playTone (ticks : UInt8) (m : Machine) :
    (playTone ticks).run m =
      .ok () (m.onSpeaker fun s => ((s.play ticks.toNat).1, (s.play ticks.toNat).2.1)) := by
  simp only [playTone, onSpeaker, EStateM.run_bind, EStateM.run_get]
  cases m.speaker with
  | none => rfl
  | some speaker =>
      simp only [EStateM.run_bind, EStateM.run_modify]
      rw [speaker.play_byte_error ticks]
      rfl

theorem run_tryCatch_putBack (act : Action Unit) (address : Int) (m : Machine) :
    (tryCatch act (putBack address)).run m =
      match act.run m with
      | .ok a after => .ok a after
      | .error (.fault fault) after =>
        .error (.fault (fault.locatedAt address)) (after.onCpu ({ · with pc := address }))
      | .error (.crash crash) after => .error (.crash crash) after := by
  show EStateM.tryCatch act (putBack address) m = _
  delta EStateM.tryCatch EStateM.run
  cases act m with
  | ok a after => rfl
  | error stop after => cases stop <;> rfl

/-! ### Where an action leads -/

/-- Begun where `P` holds, the action does not crash, and `Q` holds where it comes to its end. -/
structure Ensures (P : Machine → Prop) (act : Action α) (Q : α → Machine → Prop) : Prop where
  ok : ∀ m, P m → ∀ a after, act.run m = .ok a after → Q a after
  crash : ∀ m, P m → ∀ crash after, act.run m ≠ .error (.crash crash) after

variable {P P' : Machine → Prop}

theorem Ensures.weaken {act : Action α} {Q : α → Machine → Prop} (h : Ensures P act Q)
    (hpre : ∀ m, P' m → P m) : Ensures P' act Q where
  ok := by
    intro m hm
    exact h.ok m (hpre m hm)
  crash := by
    intro m hm
    exact h.crash m (hpre m hm)

theorem Ensures.bind {first : Action α} {next : α → Action β} {Q : α → Machine → Prop}
    {R : β → Machine → Prop} (hfirst : Ensures P first Q) (hnext : ∀ a, Ensures (Q a) (next a) R) :
    Ensures P (first >>= next) R where
  ok := by
    intro m hm b after hrun
    obtain ⟨a, between, hleft, hright⟩ := run_bind_ok hrun
    exact (hnext a).ok between (hfirst.ok m hm a between hleft) b after hright
  crash := by
    intro m hm crash after hrun
    rcases run_bind_error hrun with hstop | ⟨a, between, hleft, hright⟩
    · exact hfirst.crash m hm crash after hstop
    · exact (hnext a).crash between (hfirst.ok m hm a between hleft) crash after hright

/-- An action that always comes to its end ensures what holds there. -/
theorem ensures_of_run {act : Action α} {Q : α → Machine → Prop}
    (h : ∀ m, P m → ∃ a after, act.run m = .ok a after ∧ Q a after) : Ensures P act Q where
  ok := by
    intro m hm a after hrun
    obtain ⟨a', after', hrun', hQ⟩ := h m hm
    rw [hrun'] at hrun
    cases hrun
    exact hQ
  crash := by
    intro m hm crash after hrun
    obtain ⟨a', after', hrun', -⟩ := h m hm
    rw [hrun'] at hrun
    cases hrun

theorem ensures_pure {a : α} {Q : α → Machine → Prop} (h : ∀ m, P m → Q a m) :
    Ensures P (pure a) Q :=
  ensures_of_run fun m hm => ⟨a, m, rfl, h m hm⟩

theorem ensures_get : Ensures P get fun now m => P m ∧ now = m :=
  ensures_of_run fun m hm => ⟨m, m, rfl, hm, rfl⟩

theorem ensures_getCpu : Ensures P getCpu fun c m => P m ∧ c = m.cpu :=
  ensures_of_run fun m hm => ⟨m.cpu, m, run_getCpu m, hm, rfl⟩

theorem ensures_modify {change : Machine → Machine} {Q : Machine → Prop}
    (h : ∀ m, P m → Q (change m)) : Ensures P (modify change) fun _ => Q :=
  ensures_of_run fun m hm => ⟨(), change m, rfl, h m hm⟩

theorem ensures_modifyCpu {change : Cpu → Cpu} {Q : Machine → Prop}
    (h : ∀ m, P m → Q (m.onCpu change)) :
    Ensures P (modifyCpu change) fun _ => Q :=
  ensures_modify h

/-- A fault is no end, so nothing has to hold there. -/
theorem ensures_raise {fault : Fault} {Q : α → Machine → Prop} :
    Ensures P (raise fault) Q where
  ok := by
    intro m hm a after hrun
    rw [run_raise] at hrun
    cases hrun
  crash := by
    intro m hm crash after hrun
    rw [run_raise] at hrun
    cases hrun

theorem ensures_askMemory {question : Memory → Except Fault α} :
    Ensures P (askMemory question) fun a m => P m ∧ question m.memory = .ok a where
  ok := by
    intro m hm a after hrun
    rw [run_askMemory] at hrun
    split at hrun
    · cases hrun
    · rename_i answer hanswer
      cases hrun
      exact ⟨hm, hanswer⟩
  crash := by
    intro m hm crash after hrun
    rw [run_askMemory] at hrun
    split at hrun <;> cases hrun

theorem ensures_store {address : Int} {values : List UInt8} {Q : Machine → Prop}
    (h : ∀ m memory, P m → m.memory.store address values = .ok memory →
      Q { m with memory := memory }) :
    Ensures P (store address values) fun _ => Q :=
  ensures_askMemory.bind fun memory => ensures_modify fun m hm => h m memory hm.1 hm.2

theorem ensures_drawRandom {Q : Int → Machine → Prop}
    (h : ∀ m, P m → Q m.random.next { m with random := m.random.advance }) :
    Ensures P drawRandom Q :=
  ensures_of_run fun m hm => ⟨_, _, run_drawRandom m, h m hm⟩

theorem ensures_drawSprite {x y : Int} {rows : List UInt8} {Q : Bool → Machine → Prop}
    (h : ∀ m, P m → ∃ drawn, m.screen.drawSprite? x y rows = some drawn ∧
      Q drawn.2 { m with screen := drawn.1 }) :
    Ensures P (drawSprite x y rows) Q := by
  refine ensures_of_run fun m hm => ?_
  obtain ⟨drawn, hdrawn, hQ⟩ := h m hm
  refine ⟨drawn.2, { m with screen := drawn.1 }, ?_, hQ⟩
  rw [run_drawSprite, hdrawn]

theorem ensures_playTone {ticks : UInt8} {Q : Machine → Prop}
    (h : ∀ m action, P m → Q (m.onSpeaker action)) :
    Ensures P (playTone ticks) fun _ => Q :=
  ensures_of_run fun m hm => ⟨(), _, run_playTone ticks m, h m _ hm⟩

end Action

end Machine

end ChipEight
