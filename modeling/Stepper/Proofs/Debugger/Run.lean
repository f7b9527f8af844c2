import Stepper.Debugger.Execution
import Stepper.Proofs.Machine.Recorded

/-!
A run is a bounded number of steps. As long as nothing stops it the debugger only moves its machine
on, and what stops it decides the answer, the status and the number of instructions that were tried.
-/
namespace Stepper

namespace Machine.Stop

variable {ε : Type}

def answer : Stop ε → Except (Debugger.Error ε) Status
  | .fault cause => .error (.execution cause)
  | .halt => .ok .halted
  | .breakpoint => .ok .breakpointHit

/-- The status that a stop leaves behind; a fault leaves the one it found. -/
def status (found : Status) : Stop ε → Status
  | .fault _ => found
  | .halt => .halted
  | .breakpoint => .breakpointHit

def report (pc : Address) : Stop ε → List Trace
  | .fault _ => []
  | .halt => [.event .halted]
  | .breakpoint => [.event (.breakpointHit pc)]

end Machine.Stop

namespace Debugger
open Machine

variable {σ ε : Type} [Engine σ ε]

/-- The debugger behind a number of steps that nothing stopped. -/
def quietly (d : Debugger σ) (n : Nat) : Debugger σ :=
  { d with engine := after d.engine n, status := if n = 0 then d.status else .ready }

def stopped (d : Debugger σ) (stop : Stop ε) : Debugger σ :=
  { d with engine := after d.engine 1, status := stop.status d.status }

def quietSpans (machine : σ) (n : Nat) : List Trace :=
  (List.range n).map fun i => .span (.step (Engine.pc (after machine i))) []

@[simp] theorem quietly_zero (d : Debugger σ) : d.quietly 0 = d := rfl

theorem quietly_quietly (d : Debugger σ) (m n : Nat) :
    (d.quietly m).quietly n = d.quietly (m + n) := by
  unfold quietly
  cases n with
  | zero => rfl
  | succ n => simp [after_after]

theorem quietly_ne_halted {d : Debugger σ} (awake : d.status ≠ .halted) (n : Nat) :
    (d.quietly n).status ≠ .halted := by
  unfold quietly
  dsimp only
  split
  · exact awake
  · exact Status.noConfusion

theorem quietSpans_succ (machine : σ) (n : Nat) :
    quietSpans machine (n + 1) =
      quietSpans machine n ++ [.span (.step (Engine.pc (after machine n))) []] := by
  unfold quietSpans
  rw [List.range_succ, List.map_append]
  rfl

theorem step_of_faulted {d : Debugger σ} {cause : ε} (awake : d.status ≠ .halted)
    (faulted : (Engine.advance d.engine).1 = .error cause) :
    d.step = ⟨.error (.execution cause), { d with engine := after d.engine 1 },
      [.span (.step d.pc) []]⟩ := by
  rcases advanced : Engine.advance d.engine with ⟨answer, next⟩
  rw [advanced] at faulted
  dsimp only at faulted
  subst faulted
  simp [step, awake, advanced, after_succ]

theorem step_of_executed {d : Debugger σ} (awake : d.status ≠ .halted)
    (executed : (Engine.advance d.engine).1 = .ok ()) :
    let stood := stand d.breakpoints (after d.engine 1)
    d.step = ⟨.ok stood.1, { d with engine := after d.engine 1, status := stood.1 },
      [.span (.step d.pc) stood.2]⟩ := by
  rcases advanced : Engine.advance d.engine with ⟨answer, next⟩
  rw [advanced] at executed
  dsimp only at executed
  subst executed
  simp [step, awake, advanced, after_succ]

theorem step_of_not_stops {d : Debugger σ} (awake : d.status ≠ .halted)
    (goesOn : ¬ Stops d.breakpoints d.engine) :
    d.step = ⟨.ok .ready, d.quietly 1, [.span (.step d.pc) []]⟩ := by
  obtain ⟨executed, running, unpaused⟩ := not_stops_iff.1 goesOn
  have stepped := step_of_executed awake executed
  simp only [stand, after_succ, after_zero, running, unpaused, Bool.false_eq_true, if_false]
    at stepped
  exact stepped

theorem step_of_ends {d : Debugger σ} {stop : Stop ε} (awake : d.status ≠ .halted)
    (ends : Ends d.breakpoints d.engine stop) :
    d.step = ⟨stop.answer, d.stopped stop,
      [.span (.step d.pc) (stop.report (Engine.pc (after d.engine 1)))]⟩ := by
  cases ends with
  | fault faulted => exact step_of_faulted awake faulted
  | halt executed halted =>
    have stepped := step_of_executed awake executed
    simp only [stand, after_succ, after_zero, halted, if_true] at stepped
    exact stepped
  | breakpoint executed running paused =>
    have stepped := step_of_executed awake executed
    simp only [stand, after_succ, after_zero, running, paused, Bool.false_eq_true, if_false,
      if_true] at stepped
    exact stepped

theorem stop_answer_ne_ready (stop : Stop ε) : stop.answer ≠ .ok .ready := by
  cases stop <;> simp [Stop.answer]

theorem step_result_eq_ready_iff {d : Debugger σ} (awake : d.status ≠ .halted) :
    (d.step : Outcome σ ε Status).result = .ok .ready ↔ ¬ Stops d.breakpoints d.engine := by
  constructor
  · rintro ready ⟨stop, ends⟩
    rw [step_of_ends awake ends] at ready
    exact stop_answer_ne_ready stop ready
  · intro goesOn
    rw [step_of_not_stops awake goesOn]

theorem continueFor_of_quiet {d : Debugger σ} {n : Nat} (awake : d.status ≠ .halted)
    (quiet : Quiet d.breakpoints d.engine n) (bound : Nat) :
    continueFor #[] (n + bound) d =
      { continueFor #[] bound (d.quietly n) with
        trace := quietSpans d.engine n ++ (continueFor #[] bound (d.quietly n)).trace } := by
  induction n generalizing bound with
  | zero => simp [quietSpans]
  | succ n ih =>
    -- The last quiet step takes its share of the bound, so the bound varies in the induction.
    have stepped := step_of_not_stops (quietly_ne_halted awake n) (quiet n (Nat.lt_succ_self n))
    rw [show n + 1 + bound = n + (bound + 1) by omega, ih (quiet.mono (Nat.le_succ n))]
    simp only [continueFor, stepped]
    rw [continueFor_eq, quietly_quietly, quietSpans_succ]
    simp [quietly, pc]

theorem run_of_halted {d : Debugger σ} (asleep : d.status = .halted) :
    d.run = ⟨.error .halted, d, [.span .run []]⟩ := by
  simp [run, asleep]

theorem run_of_quiet {d : Debugger σ} (awake : d.status ≠ .halted)
    (quiet : Quiet d.breakpoints d.engine d.config.runStepLimit.toNat) :
    let last := d.quietly d.config.runStepLimit.toNat
    d.run = ⟨.ok last.status, last, [.span .run
      (quietSpans d.engine d.config.runStepLimit.toNat ++
        [.event (.stepLimitReached d.config.runStepLimit)])]⟩ := by
  have continued := continueFor_of_quiet awake quiet 0
  rw [Nat.add_zero] at continued
  simp only [run, awake, continued, continueFor]
  simp [quietly]

theorem run_of_first {d : Debugger σ} {n : Nat} {stop : Stop ε} (awake : d.status ≠ .halted)
    (within : n < d.config.runStepLimit.toNat) (quiet : Quiet d.breakpoints d.engine n)
    (ends : Ends d.breakpoints (after d.engine n) stop) :
    d.run = ⟨stop.answer, (d.quietly n).stopped stop, [.span .run
      (quietSpans d.engine n ++ [.span (.step (Engine.pc (after d.engine n)))
        (stop.report (Engine.pc (after d.engine (n + 1))))])]⟩ := by
  obtain ⟨rest, limit⟩ := Nat.exists_eq_add_of_lt within
  have stepped := step_of_ends (d := d.quietly n) (quietly_ne_halted awake n) ends
  have continued := continueFor_of_quiet awake quiet (rest + 1)
  rw [show n + (rest + 1) = d.config.runStepLimit.toNat by omega] at continued
  have refused := stop_answer_ne_ready stop
  simp only [run, awake, continued, continueFor, stepped]
  cases stop <;> simp [Stop.answer, pc, quietly] <;> rfl

theorem answer_run_of_first {d : Debugger σ} {n : Nat} {stop : Stop ε} (awake : d.status ≠ .halted)
    (within : n < d.config.runStepLimit.toNat) (quiet : Quiet d.breakpoints d.engine n)
    (ends : Ends d.breakpoints (after d.engine n) stop) :
    (d.run : Outcome σ ε Status).result = stop.answer ∧
      (d.run : Outcome σ ε Status).debugger.engine = (Engine.advance (after d.engine n)).2 := by
  rw [run_of_first awake within quiet ends]
  exact ⟨rfl, rfl⟩

theorem calls_step_of_halted {d : Debugger σ} (asleep : d.status = .halted) :
    (d.recording.step : Outcome (Recorded σ) ε Status).calls = [] := by
  unfold step
  rw [if_pos (show d.recording.status = .halted from asleep)]
  rfl

theorem calls_step_of_awake {d : Debugger σ} (awake : d.status ≠ .halted) :
    (d.recording.step : Outcome (Recorded σ) ε Status).calls = [⟨.advance, d.engine⟩] := by
  unfold step
  rw [if_neg (show d.recording.status ≠ .halted from awake), Recorded.advance_eq]
  rcases Engine.advance d.recording.engine.machine with ⟨_ | _, next⟩ <;> rfl

theorem calls_run_of_halted {d : Debugger σ} (asleep : d.status = .halted) :
    (d.recording.run : Outcome (Recorded σ) ε Status).calls = [] := by
  rw [run_of_halted (d := d.recording) asleep]
  rfl

theorem calls_run_of_quiet {d : Debugger σ} (awake : d.status ≠ .halted)
    (quiet : Quiet d.breakpoints d.engine d.config.runStepLimit.toNat) :
    (d.recording.run : Outcome (Recorded σ) ε Status).calls =
      Recorded.attempts d.engine d.config.runStepLimit.toNat := by
  have recorded := run_of_quiet (d := d.recording) awake (Recorded.quiet_iff.2 quiet)
  rw [recorded]
  unfold Outcome.calls quietly
  dsimp only
  rw [Recorded.after_eq]
  rfl

theorem calls_run_of_first {d : Debugger σ} {n : Nat} {stop : Stop ε} (awake : d.status ≠ .halted)
    (within : n < d.config.runStepLimit.toNat) (quiet : Quiet d.breakpoints d.engine n)
    (ends : Ends d.breakpoints (after d.engine n) stop) :
    (d.recording.run : Outcome (Recorded σ) ε Status).calls =
      Recorded.attempts d.engine (n + 1) := by
  have endsRecorded : Ends d.breakpoints (after d.recording.engine n) stop := by
    rw [Recorded.ends_iff, Recorded.after_eq]
    exact ends
  have recorded := run_of_first (d := d.recording) awake within (Recorded.quiet_iff.2 quiet)
    endsRecorded
  rw [recorded]
  unfold Outcome.calls stopped quietly
  dsimp only
  rw [after_after, Recorded.after_eq]
  rfl

/-- The limit counts attempts, and the `n` of the second part counts those before the last one. -/
theorem run_is_bounded_iteration (d : Debugger σ) :
    let limit := d.config.runStepLimit.toNat
    let outcome : Outcome σ ε Status := d.run
    let recorded : Outcome (Recorded σ) ε Status := d.recording.run
    (d.status = .halted →
      outcome.result = .error .halted ∧ outcome.debugger = d ∧ recorded.calls = []) ∧
    (d.status ≠ .halted →
      (∀ n stop, IsLeast {i | i < limit ∧ Stops d.breakpoints (after d.engine i)} n →
        Ends d.breakpoints (after d.engine n) stop →
          outcome.result = stop.answer ∧
          outcome.debugger = { d with
            engine := after d.engine (n + 1)
            status := stop.status (if n = 0 then d.status else .ready) } ∧
          recorded.calls = Recorded.attempts d.engine (n + 1)) ∧
      ((∀ i < limit, ¬ Stops d.breakpoints (after d.engine i)) →
        let status := if limit = 0 then d.status else .ready
        outcome.result = .ok status ∧
        outcome.debugger = { d with engine := after d.engine limit, status := status } ∧
        recorded.calls = Recorded.attempts d.engine limit)) := by
  intro limit outcome recorded
  refine ⟨fun asleep => ?_, fun awake => ⟨fun n stop least ends => ?_, fun quiet => ?_⟩⟩
  · have plain : outcome = _ := run_of_halted asleep
    rw [plain]
    exact ⟨rfl, rfl, calls_run_of_halted asleep⟩
  · have quiet := quiet_of_isLeast least
    have plain : outcome = _ := run_of_first awake least.1.1 quiet ends
    rw [plain]
    exact ⟨rfl, rfl, calls_run_of_first awake least.1.1 quiet ends⟩
  · have plain : outcome = _ := run_of_quiet awake quiet
    rw [plain]
    exact ⟨rfl, rfl, calls_run_of_quiet awake quiet⟩

end Debugger
end Stepper
