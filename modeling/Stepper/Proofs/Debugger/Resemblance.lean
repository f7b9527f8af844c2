import Stepper.Proofs.Debugger.Reporting
import Stepper.Proofs.Machine.Fetching

/-!
Two machines under the same debugger. A run sees of an attempt only how it ends: the answer, whether
the program has halted and where it stands. While this is the same on both machines the runs go
together, whatever else the machines differ in.
-/
namespace Stepper

namespace Machine

variable {σ ε : Type} [Engine σ ε] {machine other : σ} {breakpoints : Breakpoints} {stop : Stop ε}

/-- The next attempt ends as on the other machine. -/
structure Resembles (machine other : σ) : Prop where
  answer : (Engine.advance machine).1 = (Engine.advance other).1
  halted : Engine.isHalted (Engine.advance machine).2 = Engine.isHalted (Engine.advance other).2
  pc : Engine.pc (Engine.advance machine).2 = Engine.pc (Engine.advance other).2

theorem Resembles.ends (resembles : Resembles machine other)
    (ends : Ends breakpoints other stop) : Ends breakpoints machine stop := by
  obtain ⟨answer, halt, place⟩ := resembles
  cases ends with
  | fault faulted => exact .fault (answer.trans faulted)
  | halt executed halted => exact .halt (answer.trans executed) (halt.trans halted)
  | breakpoint executed running paused =>
    refine .breakpoint (answer.trans executed) (halt.trans running) ?_
    rw [place]
    exact paused

theorem Resembles.stops_iff (resembles : Resembles machine other) :
    Stops breakpoints machine ↔ Stops breakpoints other := by
  rw [← not_iff_not, not_stops_iff, not_stops_iff, resembles.answer, resembles.halted, resembles.pc]

theorem Quiet.of_resembles {n : Nat} (quiet : Quiet breakpoints other n)
    (alike : ∀ i < n, Resembles (after machine i) (after other i)) : Quiet breakpoints machine n :=
  fun i lt stops => quiet i lt ((alike i lt).stops_iff.1 stops)

end Machine

/-- Word machines that fault alike at the same place resemble each other and stay as they are. -/
theorem WordMachine.resembles_of_nextFault? {m other : WordMachine} {fault : Fault}
    (told : other.nextFault? = some fault) (toldToo : m.nextFault? = some fault)
    (pc : m.pc = other.pc) (halted : m.halted = other.halted) :
    Machine.Resembles m other ∧ (Engine.advance m).2 = m ∧ (Engine.advance other).2 = other := by
  have stays := advance_of_nextFault? told
  have staysToo := advance_of_nextFault? toldToo
  refine ⟨⟨?_, ?_, ?_⟩, ?_, ?_⟩ <;> simp only [stays, staysToo]
  · exact halted
  · exact pc

namespace Debugger
open Machine

variable {σ ε : Type} [Engine σ ε] {d : Debugger σ}

theorem exists_attempts (d : Debugger σ) : ∃ n,
    (d.recording.run : Outcome (Recorded σ) ε Status).calls = Recorded.attempts d.engine n ∧
      (d.run : Outcome σ ε Status).debugger.engine = after d.engine n := by
  obtain ⟨closing, reported⟩ := exists_runReported (ε := ε) d
  exact ⟨_, reported.attempts, reported.engine⟩

/-- The runs go together, by as many attempts as the one of them makes. -/
theorem run_of_resembles {engine : σ} {n : Nat}
    (made : (d.recording.run : Outcome (Recorded σ) ε Status).calls = Recorded.attempts d.engine n)
    (alike : ∀ i < n, Resembles (after engine i) (after d.engine i)) :
    let other : Debugger σ := { d with engine := engine }
    (other.run : Outcome σ ε Status).result = d.run.result ∧
      (other.run : Outcome σ ε Status).debugger =
        { (d.run : Outcome σ ε Status).debugger with engine := after engine n } := by
  intro other
  have count := congrArg List.length made
  rw [Recorded.length_attempts] at count
  by_cases asleep : d.status = .halted
  · rw [calls_run_of_halted asleep] at count
    subst count
    rw [run_of_halted (d := other) asleep, run_of_halted asleep]
    exact ⟨rfl, rfl⟩
  · rcases quiet_or_first d.breakpoints d.engine d.config.runStepLimit.toNat with
      quiet | ⟨k, within, quiet, stop, ends⟩
    · rw [calls_run_of_quiet asleep quiet, Recorded.length_attempts] at count
      subst count
      have quietToo : Quiet d.breakpoints engine d.config.runStepLimit.toNat :=
        quiet.of_resembles alike
      rw [run_of_quiet (d := other) asleep quietToo, run_of_quiet asleep quiet]
      exact ⟨rfl, rfl⟩
    · rw [calls_run_of_first asleep within quiet ends, Recorded.length_attempts] at count
      subst count
      have quietToo : Quiet d.breakpoints engine k :=
        quiet.of_resembles fun i lt => alike i (Nat.lt_succ_of_lt lt)
      have endsToo : Ends d.breakpoints (after engine k) stop := (alike k k.lt_succ_self).ends ends
      rw [run_of_first (d := other) asleep within quietToo endsToo,
        run_of_first asleep within quiet ends]
      exact ⟨rfl, rfl⟩

end Debugger
end Stepper
