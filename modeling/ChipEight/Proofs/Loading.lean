/-
What a load that fails leaves of the program before it.

There are two things that can go wrong with a program in a file.  The file may not be
readable, and then nothing was done yet.  Or the program may not fit into memory; this is
found out when the program is written, and before that the console was reset.  So the first
failure leaves the console as it was, and the second leaves a console that was reset, which
is the same for the processor only if it was as a reset leaves it already.
-/
import ChipEight.Proofs.Reachable

namespace ChipEight.Console

open Machine

variable {settings : Settings} {c : Console}

/-- A program that cannot be loaded does not fit, and leaves a console that was reset. -/
theorem WellFormed.load_error (h : c.WellFormed settings) {program : List UInt8}
    {error : LoadError} (hfails : (c.load program).2 = some error) :
    (c.load program).1 = c.reset.1 ∧ ∃ fault, error = .tooLarge program.length fault := by
  rw [h.load_eq] at hfails ⊢
  split at hfails
  · rename_i fault _
    cases hfails
    exact ⟨rfl, fault, rfl⟩
  · cases hfails

/-- A program from a file is loaded, or the file is not read and nothing happens. -/
theorem loadFile_or (c : Console) (read : Reader) (name : String) :
    (∃ error, (∀ length fault, error ≠ .tooLarge length fault) ∧
        c.loadFile read name = (c, some error)) ∨
      ∃ program, read name = .ok program ∧ c.loadFile read name = c.load program := by
  unfold loadFile
  split
  · exact Or.inl ⟨_, by simp, rfl⟩
  · cases read name with
    | error error => exact Or.inl ⟨_, by simp, rfl⟩
    | ok program => exact Or.inr ⟨program, rfl, rfl⟩

/-- **When a failed load keeps the processor.**  A program that does not fit resets the processor,
and so leaves it as it was only if it was as a reset leaves it.  A file that cannot be read leaves
the whole console as it was. -/
theorem failed_load_keeps_cpu_iff (h : Reachable settings c) :
    (∀ program error, (c.load program).2 = some error →
      ((c.load program).1.machine.cpu = c.machine.cpu ↔ c.machine.cpu = .initial)) ∧
    (∀ read name error, (c.loadFile read name).2 = some error →
      ((c.loadFile read name).1.machine.cpu = c.machine.cpu ↔
        (∀ length fault, error ≠ .tooLarge length fault) ∨ c.machine.cpu = .initial) ∧
      ((∀ length fault, error ≠ .tooLarge length fault) → (c.loadFile read name).1 = c)) := by
  have hwell := h.wellFormed
  have hload : ∀ program error, (c.load program).2 = some error →
      ((c.load program).1.machine.cpu = c.machine.cpu ↔ c.machine.cpu = .initial) := by
    intro program error hfails
    rw [(hwell.load_error hfails).1, hwell.reset_cpu]
    exact eq_comm
  refine ⟨hload, ?_⟩
  intro read name error hfails
  rcases c.loadFile_or read name with ⟨cause, hread, hsame⟩ | ⟨program, -, heq⟩
  · rw [hsame] at hfails ⊢
    cases hfails
    exact ⟨⟨fun _ => Or.inl hread, fun _ => rfl⟩, fun _ => rfl⟩
  · have hprogram : (c.load program).2 = some error := by rwa [heq] at hfails
    obtain ⟨-, fault, rfl⟩ := hwell.load_error hprogram
    have htooLarge : ¬ ∀ length cause,
        LoadError.tooLarge program.length fault ≠ .tooLarge length cause :=
      fun hne => hne program.length fault rfl
    rw [heq, hload program _ hprogram]
    exact ⟨⟨Or.inr, fun hor => hor.resolve_left htooLarge⟩, fun hne => absurd hne htooLarge⟩

/-! ### A program that is lost -/

/-- The small console after a program of one instruction, which sets `V0`. -/
def ranOnce : Console := (small.apply (.load [0x60, 0x05])).apply .tick

theorem ranOnce_reachable : Reachable smallSettings ranOnce :=
  (small_load_reachable [0x60, 0x05]).apply .tick

set_option maxRecDepth 4000 in
theorem ranOnce_pc : ranOnce.machine.cpu.pc = 0x202 := by
  have hstarts : (small.apply (.load [0x60, 0x05])).active = true ∧
      (small.apply (.load [0x60, 0x05])).machine.cpu.mode = .running := by decide +kernel
  have hran : (ended? 1 (small.apply (.load [0x60, 0x05])).machine).map (·.cpu.pc) =
      some 0x202 := by decide +kernel
  obtain ⟨after, hpc, htick⟩ := tick_of_ended hstarts.1 hstarts.2 hran
  rw [ranOnce, apply_tick, htick]
  exact hpc

/-- Three bytes do not fit where there is room for two. -/
theorem ranOnce_load_tooLarge :
    (ranOnce.load [0, 0, 0]).2 = some (.tooLarge 3 (.outOfBounds 0x202 0x202)) := by
  have hstore : smallSettings.freshMemory.store Cpu.programStart [0, 0, 0] =
      .error (.outOfBounds 0x202 0x202) := by decide +kernel
  rw [ranOnce_reachable.wellFormed.load_eq, hstore]
  rfl

/-- The processor is reset by a program that does not fit. -/
theorem ranOnce_load_resets :
    Reachable smallSettings ranOnce ∧
      (ranOnce.load [0, 0, 0]).2 = some (.tooLarge 3 (.outOfBounds 0x202 0x202)) ∧
      (ranOnce.load [0, 0, 0]).1.machine.cpu ≠ ranOnce.machine.cpu := by
  refine ⟨ranOnce_reachable, ranOnce_load_tooLarge, ?_⟩
  have hwell := ranOnce_reachable.wellFormed
  rw [(hwell.load_error ranOnce_load_tooLarge).1, hwell.reset_cpu]
  intro hsame
  have hpc : Cpu.initial.pc = 0x202 := by rw [hsame, ranOnce_pc]
  exact absurd hpc (by decide)

/-- A file that is not there leaves the processor at the end of the program that ran. -/
theorem ranOnce_keeps_cpu :
    (ranOnce.loadFile (fun _ => .error .missing) "pong").1.machine.cpu = ranOnce.machine.cpu := by
  have hfails : (ranOnce.loadFile (fun _ => .error .missing) "pong").2 =
      some (.unreadable "pong" .missing) := by
    have hname : "pong".contains (Char.ofNat 0) = false := by simp
    rw [loadFile, hname]
    rfl
  exact ((failed_load_keeps_cpu_iff ranOnce_reachable).2 _ _ _ hfails).1.2 (Or.inl (by simp))

end ChipEight.Console
