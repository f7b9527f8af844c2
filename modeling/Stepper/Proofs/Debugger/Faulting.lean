import Stepper.Proofs.Debugger.Run
import Stepper.Session
import Stepper.WordMachine.Basic

/-!
What a run that fails leaves of the debugger. A run fails as a whole, but the instructions before
the fault were executed one by one and each had its own effect on the status. So the status is the
one that the run found only if there was no such instruction or if it was ready all along.
-/
namespace Stepper.Debugger
open Machine

section AnyMachine

variable {σ ε : Type} [Engine σ ε] {d : Debugger σ} {cause : Error ε}

/-- The debugger is paused at a breakpoint, and the instruction there does not fault. -/
def GetsAway (d : Debugger σ) : Prop :=
  d.status = .breakpointHit ∧ (Engine.advance d.engine).1 = .ok ()

/-- A run that fails behind `n` instructions that nothing stopped, or that finds nothing to run. -/
inductive RunFails (d : Debugger σ) (outcome : Outcome σ ε Status) : Prop where
  | halted (asleep : d.status = .halted) (next : outcome.debugger = d)
  | faulted {n : Nat} {fault : ε} (awake : d.status ≠ .halted)
    (quiet : Quiet d.breakpoints d.engine n)
    (refused : (Engine.advance (after d.engine n)).1 = .error fault)
    (next : outcome.debugger =
      { d with engine := after d.engine (n + 1), status := (d.quietly n).status })

theorem runFails_of_error (failed : (d.run : Outcome σ ε Status).result = .error cause) :
    d.RunFails (d.run : Outcome σ ε Status) := by
  by_cases asleep : d.status = .halted
  · rw [run_of_halted asleep]
    exact .halted asleep rfl
  · rcases quiet_or_first d.breakpoints d.engine d.config.runStepLimit.toNat with
      quiet | ⟨n, within, quiet, stop, ends⟩
    · rw [run_of_quiet asleep quiet] at failed
      cases failed
    · rw [run_of_first asleep within quiet ends] at failed ⊢
      cases ends with
      | fault refused => exact .faulted asleep quiet refused rfl
      | halt => cases failed
      | breakpoint => cases failed

theorem quietly_status_eq_iff {n : Nat} {fault : ε} (awake : d.status ≠ .halted)
    (quiet : Quiet d.breakpoints d.engine n)
    (refused : (Engine.advance (after d.engine n)).1 = .error fault) :
    (d.quietly n).status = d.status ↔ ¬ d.GetsAway := by
  cases n with
  | zero =>
    refine iff_of_true rfl fun away => ?_
    cases refused.symm.trans away.2
  | succ n =>
    have executed := quiet.executed 0 n.succ_pos
    rw [show (d.quietly (n + 1)).status = .ready from rfl]
    cases found : d.status with
    | halted => exact absurd found awake
    | ready => exact iff_of_true rfl fun away => by cases found.symm.trans away.1
    | breakpointHit => exact iff_of_false nofun fun stays => stays ⟨found, executed⟩

/-- Of all that the debugger owns only the status may be lost, and only that of a pause. -/
theorem failed_run_keeps_status_iff (d : Debugger σ) (cause : Error ε)
    (failed : (d.run : Outcome σ ε Status).result = .error cause) :
    let left := (d.run : Outcome σ ε Status).debugger
    left.symbols = d.symbols ∧ left.breakpoints = d.breakpoints ∧ left.config = d.config ∧
      (left.status = d.status ↔ ¬ d.GetsAway) ∧ (d.GetsAway → left.status = .ready) := by
  intro left
  cases runFails_of_error failed with
  | halted asleep next =>
    have same : left = d := next
    have stays : ¬ d.GetsAway := fun away => by cases asleep.symm.trans away.1
    rw [same]
    exact ⟨rfl, rfl, rfl, iff_of_true rfl stays, fun away => absurd away stays⟩
  | @faulted n fault awake quiet refused next =>
    have same : left = _ := next
    have status := quietly_status_eq_iff awake quiet refused
    rw [same]
    refine ⟨rfl, rfl, rfl, status, fun away => ?_⟩
    cases n with
    | zero => cases refused.symm.trans away.2
    | succ n => rfl

end AnyMachine

/-- A program that does nothing twice before it faults, paused between the two. -/
def pausedBeforeFault : Debugger WordMachine :=
  (ofEngine (.start []) ⟨5⟩).performAll
    [.loadImage [0, 0, 0, 1, 0, 0, 0, 1, 0, 0, 0, 0xFF] .empty, .setBreakpoint (.address 1), .step]

theorem failed_run_forgets_pause :
    pausedBeforeFault.run.result = .error (.execution (.illegalOpcode 0xFF 2)) ∧
      pausedBeforeFault.status = .breakpointHit ∧
      pausedBeforeFault.run.debugger.status = .ready ∧
      pausedBeforeFault.run.debugger.breakpoints = pausedBeforeFault.breakpoints := by
  have failed : pausedBeforeFault.run.result = .error (.execution (.illegalOpcode 0xFF 2)) := by
    decide
  have away : pausedBeforeFault.GetsAway := ⟨by decide, by decide⟩
  obtain ⟨_, breakpoints, _, _, forgets⟩ := failed_run_keeps_status_iff _ _ failed
  exact ⟨failed, away.1, forgets away, breakpoints⟩

end Stepper.Debugger
