import Stepper.Proofs.Debugger.Run
import Stepper.Proofs.Machine.Counting

/-!
The report of a run tells what the run did. In the flat view it has one entry for the run, one for
each attempt with the address that the attempt started from, and at most one that closes it and says
why the run stopped. A run that faults stops without a word.
-/
namespace Stepper
open Machine

namespace Entry

def run : Entry := ⟨[], .inl .run⟩

def attempt (pc : Address) : Entry := ⟨["Run"], .inl (.step pc)⟩

def halted : Entry := ⟨["Run", "Step"], .inr .halted⟩

def breakpointHit (pc : Address) : Entry := ⟨["Run", "Step"], .inr (.breakpointHit pc)⟩

def limitReached (limit : UInt64) : Entry := ⟨["Run"], .inr (.stepLimitReached limit)⟩

def isStep (entry : Entry) : Bool :=
  match entry.subject with
  | .inl (.step _) => true
  | _ => false

end Entry

/-- The number of steps that a report tells of. -/
def Trace.stepCount (trace : List Trace) : Nat := (flatten trace).countP Entry.isStep

/-- The entry with which a run that was stopped closes its report. -/
def Machine.Stop.closing {ε : Type} (pc : Address) : Stop ε → Option Entry
  | .fault _ => none
  | .halt => some .halted
  | .breakpoint => some (.breakpointHit pc)

section Entries

variable {σ ε : Type} [Engine σ ε]

/-- One entry for each of these calls, if they are attempts made during a run. -/
def Call.attemptEntries (calls : List (Call σ)) : List Entry :=
  calls.map fun call => .attempt (Engine.pc call.machine)

theorem Recorded.executes_of_mem_attempts {machine : σ} {n : Nat}
    (executed : ∀ i < n, (Engine.advance (after machine i)).1 = .ok ()) :
    ∀ call ∈ attempts machine n, call.executes = true := by
  intro call listed
  obtain ⟨i, lt, rfl⟩ := mem_attempts.1 listed
  rw [Call.executes_advance, executed i lt]
  rfl

theorem Trace.flatten_run (inner : List Trace) :
    flatten [.span .run inner] = .run :: flattenWithin ["Run"] inner := by
  simp [flatten, flattenWithin, entriesWithin, Entry.run, Span.name]

theorem Call.countP_isStep_attemptEntries (calls : List (Call σ)) :
    (attemptEntries calls).countP Entry.isStep = calls.length := by
  rw [attemptEntries, List.countP_map]
  exact List.countP_eq_length.2 fun _ _ => rfl

end Entries

namespace Debugger

variable {σ ε : Type} [Engine σ ε] {d : Debugger σ}

theorem flattenWithin_quietSpans (machine : σ) (n : Nat) :
    Trace.flattenWithin ["Run"] (quietSpans machine n) =
      Call.attemptEntries (Recorded.attempts machine n) := by
  induction n with
  | zero => rfl
  | succ n ih =>
    rw [quietSpans_succ, Trace.flattenWithin_append, ih, Recorded.attempts_succ]
    simp [Call.attemptEntries, Trace.flattenWithin, Trace.entriesWithin, Entry.attempt]

theorem flattenWithin_lastSpan (machine : σ) (pc : Address) (stop : Stop ε) :
    Trace.flattenWithin ["Run"] [.span (.step (Engine.pc machine)) (stop.report pc)] =
      .attempt (Engine.pc machine) :: (stop.closing pc).toList := by
  cases stop <;>
    simp [Stop.report, Stop.closing, Trace.flattenWithin, Trace.entriesWithin, Span.name,
      Entry.attempt, Entry.halted, Entry.breakpointHit]

/-- What the report of a run tells, given the calls of the run and the entry that closes it. -/
structure RunReported (d : Debugger σ) (outcome : Outcome σ ε Status) (calls : List (Call σ))
    (closing : Option Entry) : Prop where
  attempts : calls = Recorded.attempts d.engine calls.length
  engine : outcome.debugger.engine = after d.engine calls.length
  entries : Trace.flatten outcome.trace = .run :: Call.attemptEntries calls ++ closing.toList
  breakpointHit : closing = some (.breakpointHit outcome.debugger.pc) ↔
    calls ≠ [] ∧ outcome.result = .ok .breakpointHit
  halted : closing = some .halted ↔ outcome.result = .ok .halted
  limitReached : closing = some (.limitReached d.config.runStepLimit) ↔
    d.status ≠ .halted ∧ calls.length = d.config.runStepLimit.toNat ∧
      ∀ call ∈ calls, ({ d with engine := call.machine } : Debugger σ).step.result = .ok .ready
  nothingElse : ∀ entry ∈ closing, entry = .breakpointHit outcome.debugger.pc ∨
    entry = .halted ∨ entry = .limitReached d.config.runStepLimit
  executed : ∀ status, outcome.result = .ok status → ∀ call ∈ calls, call.executes = true
  faulted : ∀ fault, outcome.result = .error (.execution fault) →
    closing = none ∧ calls.length = calls.countP Call.executes + 1
  asleep : outcome.result = .error .halted → Trace.flatten outcome.trace = [.run]
  bounded : calls.length ≤ d.config.runStepLimit.toNat

theorem reported_of_halted (asleep : d.status = .halted) :
    d.RunReported (⟨.error .halted, d, [.span .run []]⟩ : Outcome σ ε Status) [] none where
  attempts := rfl
  engine := rfl
  entries := Trace.flatten_run []
  breakpointHit := by simp
  halted := by simp
  limitReached := by simp [asleep]
  nothingElse := by simp
  executed := by simp
  faulted := by simp
  asleep := fun _ => Trace.flatten_run []
  bounded := Nat.zero_le _

theorem reported_of_quiet (awake : d.status ≠ .halted)
    (quiet : Quiet d.breakpoints d.engine d.config.runStepLimit.toNat) :
    d.RunReported (d.run : Outcome σ ε Status)
      (Recorded.attempts d.engine d.config.runStepLimit.toNat)
      (some (.limitReached d.config.runStepLimit)) := by
  have running := quietly_ne_halted awake d.config.runStepLimit.toNat
  rw [run_of_quiet awake quiet]
  exact {
    attempts := by rw [Recorded.length_attempts]
    engine := by rw [Recorded.length_attempts, quietly]
    entries := by
      rw [Trace.flatten_run, Trace.flattenWithin_append, flattenWithin_quietSpans]
      rfl
    breakpointHit := by
      refine iff_of_false (by simp [Entry.limitReached, Entry.breakpointHit]) ?_
      rintro ⟨attempted, hit⟩
      have moving : d.config.runStepLimit.toNat ≠ 0 := by
        rintro none_left
        exact attempted (by rw [none_left, Recorded.attempts_zero])
      simp [quietly, moving] at hit
    halted := iff_of_false (by simp [Entry.limitReached, Entry.halted]) (by simpa using running)
    limitReached := by
      refine iff_of_true rfl ⟨awake, Recorded.length_attempts _ _, fun call listed => ?_⟩
      obtain ⟨i, lt, rfl⟩ := Recorded.mem_attempts.1 listed
      have goesOn := quiet i lt
      exact (step_result_eq_ready_iff (d := { d with engine := after d.engine i }) awake).2 goesOn
    nothingElse := by simp
    executed := fun _ _ => Recorded.executes_of_mem_attempts quiet.executed
    faulted := by simp
    asleep := by simp
    bounded := by rw [Recorded.length_attempts] }

theorem reported_of_first {n : Nat} {stop : Stop ε} (awake : d.status ≠ .halted)
    (within : n < d.config.runStepLimit.toNat) (quiet : Quiet d.breakpoints d.engine n)
    (ends : Ends d.breakpoints (after d.engine n) stop) :
    d.RunReported (d.run : Outcome σ ε Status) (Recorded.attempts d.engine (n + 1))
      (stop.closing (Engine.pc (after d.engine (n + 1)))) := by
  have last : ⟨.advance, after d.engine n⟩ ∈ Recorded.attempts d.engine (n + 1) :=
    Recorded.mem_attempts.2 ⟨n, Nat.lt_succ_self n, rfl⟩
  rw [run_of_first awake within quiet ends]
  exact {
    attempts := by rw [Recorded.length_attempts]
    engine := by rw [Recorded.length_attempts, stopped, quietly, after_after]
    entries := by
      rw [Trace.flatten_run, Trace.flattenWithin_append, flattenWithin_quietSpans,
        flattenWithin_lastSpan, Recorded.attempts_succ]
      simp [Call.attemptEntries]
    breakpointHit := by
      rw [and_iff_right (List.ne_nil_of_mem last)]
      cases stop with
      | fault | halt => simp [Stop.closing, Stop.answer, Entry.halted, Entry.breakpointHit]
      | breakpoint => exact iff_of_true rfl rfl
    halted := by
      cases stop <;> simp [Stop.closing, Stop.answer, Entry.halted, Entry.breakpointHit]
    limitReached := by
      refine iff_of_false ?_ ?_
      · cases stop <;>
          simp [Stop.closing, Entry.halted, Entry.breakpointHit, Entry.limitReached]
      · rintro ⟨_, _, ready⟩
        have goesOn := (step_result_eq_ready_iff (d := { d with engine := after d.engine n })
          awake).1 (ready _ last)
        exact goesOn ⟨stop, ends⟩
    nothingElse := by
      cases stop with
      | fault => simp [Stop.closing]
      | halt => simp [Stop.closing]
      | breakpoint =>
        rintro entry closed
        exact .inl (Option.some.inj closed).symm
    executed := by
      intro status done
      refine Recorded.executes_of_mem_attempts fun i lt => ?_
      rcases Nat.lt_succ_iff_lt_or_eq.1 lt with before | rfl
      · exact quiet.executed i before
      · cases ends with
        | fault => cases done
        | halt executed => exact executed
        | breakpoint executed => exact executed
    faulted := by
      intro fault faulted
      cases ends with
      | fault refused =>
        have before := Recorded.executes_of_mem_attempts quiet.executed
        refine ⟨rfl, ?_⟩
        rw [Recorded.attempts_succ, List.length_append, List.countP_append,
          List.countP_eq_length.2 before]
        simp [refused, Except.isOk, Except.toBool]
      | halt => cases faulted
      | breakpoint => cases faulted
    asleep := by cases stop <;> simp [Stop.answer]
    bounded := by rwa [Recorded.length_attempts] }

theorem exists_runReported (d : Debugger σ) : ∃ closing,
    d.RunReported (d.run : Outcome σ ε Status)
      (d.recording.run : Outcome (Recorded σ) ε Status).calls closing := by
  rcases eq_or_ne d.status .halted with asleep | awake
  · rw [run_of_halted asleep, calls_run_of_halted asleep]
    exact ⟨none, reported_of_halted asleep⟩
  · rcases quiet_or_first d.breakpoints d.engine d.config.runStepLimit.toNat with
      quiet | ⟨n, within, quiet, stop, ends⟩
    · rw [calls_run_of_quiet awake quiet]
      exact ⟨_, reported_of_quiet awake quiet⟩
    · rw [calls_run_of_first awake within quiet ends]
      exact ⟨_, reported_of_first awake within quiet ends⟩

theorem RunReported.stepCount_eq {outcome : Outcome σ ε Status} {calls : List (Call σ)}
    {closing : Option Entry} (reported : d.RunReported outcome calls closing) :
    Trace.stepCount outcome.trace = calls.length := by
  have closed : closing.toList.countP Entry.isStep = 0 := by
    rw [List.countP_eq_zero]
    intro entry listed
    rcases reported.nothingElse entry (Option.mem_toList.1 listed) with rfl | rfl | rfl <;>
      exact Bool.false_ne_true
  rw [Trace.stepCount, reported.entries, List.countP_append, List.countP_cons,
    Call.countP_isStep_attemptEntries, closed]
  rfl

theorem RunReported.toNat_steps {d : Debugger WordMachine}
    {outcome : Outcome WordMachine WordMachine.Fault Status} {calls : List (Call WordMachine)}
    {closing : Option Entry} {status : Status} (reported : d.RunReported outcome calls closing)
    (done : outcome.result = .ok status) :
    outcome.debugger.engine.steps.toNat =
      (d.engine.steps.toNat + calls.length) % UInt64.size := by
  rw [reported.engine]
  apply WordMachine.toNat_steps_after
  intro i lt
  have executes := reported.executed status done
  rw [reported.attempts] at executes
  have executed := executes _ (Recorded.mem_attempts.2 ⟨i, lt, rfl⟩)
  rw [Call.executes_advance] at executed
  cases answer : (Engine.advance (after d.engine i)).1 with
  | error fault =>
    rw [answer] at executed
    cases executed
  | ok _ => rfl

/-- The steps of a report are its attempts, so the machine that counts its instructions agrees with
the report of every run that does not fail. -/
theorem run_is_reported :
    (∀ {σ ε : Type} [Engine σ ε] (d : Debugger σ),
      let outcome : Outcome σ ε Status := d.run
      let calls := (d.recording.run : Outcome (Recorded σ) ε Status).calls
      (∃ closing, d.RunReported outcome calls closing) ∧
        Trace.stepCount outcome.trace = calls.length ∧
        Trace.stepCount outcome.trace ≤ d.config.runStepLimit.toNat) ∧
    (∀ (d : Debugger WordMachine) (status : Status), d.run.result = .ok status →
      d.engine.steps.toNat + Trace.stepCount d.run.trace < UInt64.size →
        d.run.debugger.engine.steps.toNat =
          d.engine.steps.toNat + Trace.stepCount d.run.trace) := by
  refine ⟨?_, ?_⟩
  · intro σ ε _ d outcome calls
    obtain ⟨closing, reported⟩ := exists_runReported (ε := ε) d
    have counted : Trace.stepCount outcome.trace = calls.length := reported.stepCount_eq
    refine ⟨⟨closing, reported⟩, counted, ?_⟩
    rw [counted]
    exact reported.bounded
  · intro d status done fits
    obtain ⟨closing, reported⟩ := exists_runReported d
    have counted := reported.stepCount_eq
    rw [counted] at fits ⊢
    rw [reported.toNat_steps done, Nat.mod_eq_of_lt fits]

/-- A program that does nothing once and halts. -/
def idleOnce : Debugger WordMachine where
  engine := .start [0x01000000, 0]
  config := ⟨5⟩
  symbols := .empty
  breakpoints := .empty
  status := .ready

theorem idleOnce_is_reported :
    Trace.flatten idleOnce.run.trace = [.run, .attempt 0, .attempt 1, .halted] ∧
      idleOnce.run.result = .ok .halted ∧
      idleOnce.engine.steps.toNat + Trace.stepCount idleOnce.run.trace < UInt64.size ∧
      idleOnce.run.debugger.engine.steps.toNat =
        idleOnce.engine.steps.toNat + Trace.stepCount idleOnce.run.trace := by
  have done : idleOnce.run.result = .ok .halted := by decide
  have fits : idleOnce.engine.steps.toNat + Trace.stepCount idleOnce.run.trace < UInt64.size := by
    decide
  exact ⟨rfl, done, fits, run_is_reported.2 idleOnce .halted done fits⟩

end Debugger
end Stepper
