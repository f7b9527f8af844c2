import Stepper.Proofs.Session.Frame
import Stepper.Proofs.Session.Recording
import Mathlib.Order.Nat

/-!
Pauses do not show in what a program does. The machine is where its own attempts have brought it,
however they were divided into steps and runs, and a client who runs again after each pause comes to
the same end, by the same attempts, as one run without any breakpoint.
-/
namespace Stepper
open Machine

/-- Asks for nothing but what the machine does by itself: no loading and no writing. -/
def Operation.Watches (operation : Operation) : Prop :=
  operation.kind ≠ .loads ∧ operation.kind ≠ .writes

instance (operation : Operation) : Decidable operation.Watches :=
  inferInstanceAs (Decidable (_ ∧ _))

/-- Leaves the machine alone: only looks, or edits breakpoints. -/
def Operation.Idle (operation : Operation) : Prop :=
  operation.kind = .looks ∨ operation.kind = .edits

instance (operation : Operation) : Decidable operation.Idle := inferInstanceAs (Decidable (_ ∨ _))

namespace Debugger

variable {σ ε : Type}

/-- The number of attempts to execute an instruction among these calls. -/
def attemptCount (calls : List (Call σ)) : Nat := calls.countP fun call => call.command = .advance

theorem attemptCount_attempts [Engine σ ε] (machine : σ) (n : Nat) :
    attemptCount (Recorded.attempts machine n) = n := by
  induction n with
  | zero => rfl
  | succ n ih =>
    unfold attemptCount at ih ⊢
    rw [Recorded.attempts_succ, List.countP_append, ih]
    rfl

/-- The program is not at its end, and running may go on. -/
def Paused (result : Except (Error ε) Status) : Prop :=
  result = .ok .breakpointHit ∨ result = .ok .ready

/-- The program has halted or faulted. -/
def Finished (result : Except (Error ε) Status) : Prop :=
  result = .ok .halted ∨ ∃ fault, result = .error (.execution fault)

theorem not_paused_of_ne_breakpoint {stop : Stop ε} (final : stop ≠ .breakpoint) :
    ¬ Paused stop.answer := by
  cases stop with
  | fault cause => simp [Paused, Stop.answer]
  | halt => simp [Paused, Stop.answer]
  | breakpoint => exact absurd rfl final

variable [Engine σ ε] {d : Debugger σ}

/-! Watching. -/

/-- The calls that a sequence of operations makes of the machine. -/
def callsOf (d : Debugger σ) (operations : List Operation) : List (Call σ) :=
  (d.recording.performAll operations).engine.calls

theorem exists_perform_engine {operation : Operation} (watches : operation.Watches) :
    ∃ n, (d.perform operation : Outcome σ ε Answer).debugger.engine = after d.engine n := by
  cases perform_change d operation with
  | looked _ next => exact ⟨0, by rw [next, after_zero]⟩
  | edited _ _ next => exact ⟨0, by rw [next, after_zero]⟩
  | executed _ attempts _ next => exact ⟨attempts, by rw [next]⟩
  | written kind => exact absurd kind watches.2
  | refused kind => exact absurd kind watches.1
  | loaded kind => exact absurd kind watches.1

theorem exists_performAll_engine {operations : List Operation}
    (watching : ∀ operation ∈ operations, operation.Watches) :
    ∃ n, (d.performAll operations).engine = after d.engine n := by
  induction operations generalizing d with
  | nil => exact ⟨0, rfl⟩
  | cons operation rest ih =>
    obtain ⟨watches, others⟩ := List.forall_mem_cons.1 watching
    obtain ⟨m, first⟩ := exists_perform_engine (d := d) watches
    obtain ⟨n, later⟩ := ih others
    refine ⟨m + n, ?_⟩
    rw [performAll_cons, later, first, after_after]

/-- Attempts are all that watching asks of the machine, and their number tells where it is. -/
theorem performAll_watching {operations : List Operation}
    (watching : ∀ operation ∈ operations, operation.Watches) :
    let k := attemptCount (d.callsOf operations)
    (d.performAll operations).engine = after d.engine k ∧
      d.callsOf operations = Recorded.attempts d.engine k := by
  -- A machine with a record goes its way as well, and its record is what it was asked for.
  obtain ⟨n, moved⟩ := exists_performAll_engine (d := d.recording) watching
  rw [Recorded.after_eq] at moved
  have calls : d.callsOf operations = Recorded.attempts d.engine n := congrArg Recorded.calls moved
  have machine : (d.performAll operations).engine = after d.engine n := by
    rw [show d = d.recording.plain from rfl, ← plain_performAll]
    exact congrArg Recorded.machine moved
  rw [calls, attemptCount_attempts]
  exact ⟨machine, rfl⟩

/-! Running again. -/

/-- The debugger in front of the run with this number, from zero, if it is run again and again with
other operations in between. -/
def beforeRun (d : Debugger σ) (between : Nat → List Operation) : Nat → Debugger σ
  | 0 => d.performAll (between 0)
  | n + 1 =>
    ((d.beforeRun between n).run : Outcome σ ε Status).debugger.performAll (between (n + 1))

theorem exists_performAll_idle {operations : List Operation}
    (idle : ∀ operation ∈ operations, operation.Idle) :
    ∃ breakpoints, d.performAll operations = { d with breakpoints := breakpoints } := by
  induction operations generalizing d with
  | nil => exact ⟨d.breakpoints, rfl⟩
  | cons operation rest ih =>
    obtain ⟨first, others⟩ := List.forall_mem_cons.1 idle
    have same : ∃ breakpoints, (d.perform operation : Outcome σ ε Answer).debugger =
        { d with breakpoints := breakpoints } := by
      cases perform_change d operation with
      | looked _ next => exact ⟨d.breakpoints, next⟩
      | edited _ breakpoints next => exact ⟨breakpoints, next⟩
      | executed kind | written kind | refused kind | loaded kind =>
        rcases first with looks | edits
        · rw [kind] at looks
          cases looks
        · rw [kind] at edits
          cases edits
    obtain ⟨_, next⟩ := same
    rw [performAll_cons, next]
    exact ih others

/-- A run gets on before it pauses, and it never gets beyond the end of the program. -/
theorem run_pauses_or_finishes {n : Nat} {stop : Stop ε} (awake : d.status ≠ .halted)
    (moving : 0 < d.config.runStepLimit.toNat) (finishes : Finishes d.engine n stop) :
    (∃ m status, 0 < m ∧ m ≤ n ∧ status ≠ .halted ∧
      Paused (d.run : Outcome σ ε Status).result ∧
      (d.run : Outcome σ ε Status).debugger =
        { d with engine := after d.engine m, status := status }) ∨
    ((d.run : Outcome σ ε Status).result = stop.answer ∧
      (d.run : Outcome σ ε Status).debugger.engine = after d.engine (n + 1)) := by
  rcases quiet_or_first d.breakpoints d.engine d.config.runStepLimit.toNat with
    quiet | ⟨m, within, quiet, first, ends⟩
  · have ready : (d.quietly d.config.runStepLimit.toNat).status = .ready := if_neg moving.ne'
    rw [run_of_quiet awake quiet, ready]
    refine .inl ⟨_, .ready, moving, finishes.le_of_quiet quiet, Status.noConfusion, .inr rfl, ?_⟩
    rw [← ready]
    rfl
  · rw [run_of_first awake within quiet ends]
    rcases (finishes.le_of_quiet quiet).lt_or_eq with before | rfl
    · -- Nothing but a breakpoint stops the machine before its end.
      have paused : first = .breakpoint := ends.eq_breakpoint (finishes.quiet m before)
      subst paused
      exact .inl ⟨m + 1, .breakpointHit, m.succ_pos, before, Status.noConfusion, .inl rfl, rfl⟩
    · rw [ends.unique finishes.ends.of_empty]
      exact .inr ⟨rfl, rfl⟩

section Client

variable {between : Nat → List Operation} {n : Nat} {stop : Stop ε}

/-- The invariant of a client: each pause found the machine further on. -/
structure Underway (d : Debugger σ) (n : Nat) (paused : Nat) (next : Debugger σ) : Prop where
  progress : ∃ m, paused ≤ m ∧ m ≤ n ∧ next.engine = after d.engine m
  awake : next.status ≠ .halted
  config : next.config = d.config

theorem Underway.idle {paused : Nat} {next : Debugger σ} (underway : d.Underway n paused next)
    {operations : List Operation} (idle : ∀ operation ∈ operations, operation.Idle) :
    d.Underway n paused (next.performAll operations) := by
  obtain ⟨breakpoints, same⟩ := exists_performAll_idle (d := next) idle
  rw [same]
  exact ⟨underway.progress, underway.awake, underway.config⟩

/-- The next run of a client that is underway. -/
theorem Underway.run {paused : Nat} {next : Debugger σ} (underway : d.Underway n paused next)
    (moving : 0 < d.config.runStepLimit.toNat) (finishes : Finishes d.engine n stop) :
    (Paused (next.run : Outcome σ ε Status).result ∧
      d.Underway n (paused + 1) (next.run : Outcome σ ε Status).debugger) ∨
    ((next.run : Outcome σ ε Status).result = stop.answer ∧
      (next.run : Outcome σ ε Status).debugger.engine = after d.engine (n + 1)) := by
  obtain ⟨m, further, le, engine⟩ := underway.progress
  obtain ⟨rest, rfl⟩ := Nat.exists_eq_add_of_le le
  have ahead := finishes.after
  rw [← engine] at ahead
  rw [← underway.config] at moving
  rcases run_pauses_or_finishes underway.awake moving ahead with
    ⟨gained, status, positive, within, awake, pauses, moved⟩ | ⟨result, finished⟩
  · refine .inl ⟨pauses, ?_⟩
    rw [moved]
    refine ⟨⟨m + gained, by omega, by omega, ?_⟩, awake, underway.config⟩
    change after next.engine gained = _
    rw [engine, after_after]
  · refine .inr ⟨result, ?_⟩
    rw [finished, engine, after_after, Nat.add_assoc]

theorem underway_beforeRun (awake : d.status ≠ .halted) (moving : 0 < d.config.runStepLimit.toNat)
    (finishes : Finishes d.engine n stop)
    (idle : ∀ i, ∀ operation ∈ between i, operation.Idle) {count : Nat}
    (paused : ∀ i < count, Paused ((d.beforeRun between i).run : Outcome σ ε Status).result) :
    d.Underway n count (d.beforeRun between count) := by
  induction count with
  | zero => exact Underway.idle ⟨⟨0, le_rfl, n.zero_le, rfl⟩, awake, rfl⟩ (idle 0)
  | succ count ih =>
    have before := ih fun i lt => paused i (Nat.lt_succ_of_lt lt)
    have last := paused count (Nat.lt_succ_self count)
    rcases before.run moving finishes with ⟨_, underway⟩ | ⟨result, _⟩
    · exact underway.idle (idle (count + 1))
    · rw [result] at last
      exact absurd last (not_paused_of_ne_breakpoint finishes.ends.ne_breakpoint)

/-- A client gets to the end of the program, and with each run at least one instruction nearer. -/
theorem exists_last_run (awake : d.status ≠ .halted) (moving : 0 < d.config.runStepLimit.toNat)
    (finishes : Finishes d.engine n stop)
    (idle : ∀ i, ∀ operation ∈ between i, operation.Idle) :
    ∃ last ≤ n,
      (∀ i < last, Paused ((d.beforeRun between i).run : Outcome σ ε Status).result) ∧
      ((d.beforeRun between last).run : Outcome σ ε Status).result = stop.answer ∧
      ((d.beforeRun between last).run : Outcome σ ε Status).debugger.engine =
        after d.engine (n + 1) := by
  classical
  have ended : ∃ i ≤ n, ¬ Paused ((d.beforeRun between i).run : Outcome σ ε Status).result := by
    by_contra always
    push Not at always
    have underway : d.Underway n (n + 1) (d.beforeRun between (n + 1)) :=
      underway_beforeRun awake moving finishes idle fun i lt => always i (Nat.le_of_lt_succ lt)
    obtain ⟨m, further, le, _⟩ := underway.progress
    omega
  obtain ⟨i, le, unpaused⟩ := ended
  have some_unpaused :
      ∃ i, ¬ Paused ((d.beforeRun between i).run : Outcome σ ε Status).result := ⟨i, unpaused⟩
  have earlier : ∀ j < Nat.find some_unpaused,
      Paused ((d.beforeRun between j).run : Outcome σ ε Status).result :=
    fun j lt => not_not.1 (Nat.find_min some_unpaused lt)
  refine ⟨Nat.find some_unpaused, (Nat.find_min' some_unpaused unpaused).trans le, earlier, ?_⟩
  have underway := underway_beforeRun awake moving finishes idle earlier
  rcases underway.run moving finishes with ⟨pauses, _⟩ | finished
  · exact absurd pauses (Nat.find_spec some_unpaused)
  · exact finished

theorem plain_beforeRun (d : Debugger (Recorded σ)) (between : Nat → List Operation) (count : Nat) :
    (d.beforeRun between count).plain = d.plain.beforeRun between count := by
  induction count with
  | zero => exact plain_performAll d (between 0)
  | succ count ih =>
    rw [beforeRun, beforeRun, plain_performAll, ← ih, ← plain_run]
    rfl

/-- A run without breakpoints that comes to an end tells what the machine does by itself. -/
theorem finishes_of_run {d : Debugger σ} (awake : d.status ≠ .halted)
    (unbroken : d.breakpoints = .empty)
    (finished : Finished (d.run : Outcome σ ε Status).result) :
    ∃ n stop, Finishes d.engine n stop ∧
      (d.run : Outcome σ ε Status).result = stop.answer ∧
      (d.run : Outcome σ ε Status).debugger.engine = after d.engine (n + 1) ∧
      (d.recording.run : Outcome (Recorded σ) ε Status).calls =
        Recorded.attempts d.engine (n + 1) := by
  rcases quiet_or_first d.breakpoints d.engine d.config.runStepLimit.toNat with
    quiet | ⟨n, within, quiet, stop, ends⟩
  · rw [run_of_quiet awake quiet] at finished
    rcases finished with halted | ⟨fault, faulted⟩
    · exact absurd (Except.ok.inj halted) (quietly_ne_halted awake _)
    · cases faulted
  · refine ⟨n, stop, ?_, ?_, ?_, calls_run_of_first awake within quiet ends⟩
    · rw [unbroken] at quiet ends
      exact ⟨quiet, ends⟩
    · rw [run_of_first awake within quiet ends]
    · rw [run_of_first awake within quiet ends]
      rfl

/-- A client comes to the same end as one run without breakpoints, by the same attempts. -/
theorem client_finishes (awake : d.status ≠ .halted) (moving : 0 < d.config.runStepLimit)
    (finishes : Finishes d.engine n stop)
    (idle : ∀ i, ∀ operation ∈ between i, operation.Idle) :
    ∃ last ≤ n,
      (∀ i < last, Paused ((d.beforeRun between i).run : Outcome σ ε Status).result) ∧
      ((d.beforeRun between last).run : Outcome σ ε Status).result = stop.answer ∧
      ((d.beforeRun between last).run : Outcome σ ε Status).debugger.engine =
        after d.engine (n + 1) ∧
      ((d.recording.beforeRun between last).run : Outcome (Recorded σ) ε Status).calls =
        Recorded.attempts d.engine (n + 1) := by
  have plain : ∀ i, ((d.beforeRun between i).run : Outcome σ ε Status) =
      ((d.recording.beforeRun between i).run : Outcome (Recorded σ) ε Status).plain := by
    intro i
    rw [plain_run, plain_beforeRun]
    rfl
  obtain ⟨last, le, paused, result, engine⟩ := exists_last_run (d := d.recording) awake
    (UInt64.lt_iff_toNat_lt.1 moving) (Recorded.finishes_iff.2 finishes) idle
  rw [Recorded.after_eq] at engine
  refine ⟨last, le, fun i lt => ?_, ?_, ?_, congrArg Recorded.calls engine⟩
  · rw [plain]
    exact paused i lt
  · rw [plain]
    exact result
  · rw [plain]
    exact congrArg Recorded.machine engine

end Client

/-- The first part is about any way to divide the attempts, the second one about a client who runs
until the program is done. -/
theorem pauses_change_nothing (d : Debugger σ) (awake : d.status ≠ .halted) :
    (∀ operations, (∀ operation ∈ operations, operation.Watches) →
      let k := attemptCount (d.callsOf operations)
      (d.performAll operations).engine = after d.engine k ∧
      d.callsOf operations = Recorded.attempts d.engine k ∧
      ∀ (other : Debugger σ) (others : List Operation), other.engine = d.engine →
        (∀ operation ∈ others, operation.Watches) → attemptCount (other.callsOf others) = k →
          (other.performAll others).engine = (d.performAll operations).engine) ∧
    (∀ limit : UInt64,
      let alone : Debugger σ := { d with breakpoints := .empty, config := ⟨limit⟩ }
      let whole : Outcome σ ε Status := alone.run
      let k := attemptCount (alone.recording.run : Outcome (Recorded σ) ε Status).calls
      Finished whole.result →
        ∀ other : Debugger σ, other.engine = d.engine → other.status ≠ .halted →
          0 < other.config.runStepLimit →
            ∀ between : Nat → List Operation, (∀ i, ∀ operation ∈ between i, operation.Idle) →
              ∃ last < k,
                (∀ i < last, Paused ((other.beforeRun between i).run : Outcome σ ε Status).result) ∧
                ((other.beforeRun between last).run : Outcome σ ε Status).result = whole.result ∧
                ((other.beforeRun between last).run : Outcome σ ε Status).debugger.engine =
                  whole.debugger.engine ∧
                ((other.recording.beforeRun between last).run :
                  Outcome (Recorded σ) ε Status).calls = Recorded.attempts d.engine k) := by
  refine ⟨?_, ?_⟩
  · intro operations watching k
    obtain ⟨engine, calls⟩ := performAll_watching (d := d) watching
    refine ⟨engine, calls, fun other others same othersWatching count => ?_⟩
    rw [(performAll_watching othersWatching).1, count, same, engine]
  · intro limit alone whole k finished other same otherAwake moving between idle
    obtain ⟨n, stop, finishes, result, engine, calls⟩ :=
      finishes_of_run (d := alone) awake rfl finished
    have count : k = n + 1 := by
      change attemptCount _ = _
      rw [calls, attemptCount_attempts]
    obtain ⟨last, le, paused, lastResult, lastEngine, lastCalls⟩ :=
      client_finishes otherAwake moving (same ▸ finishes) idle
    rw [same] at lastEngine lastCalls
    rw [count]
    exact ⟨last, Nat.lt_succ_of_le le, paused, lastResult.trans result.symm,
      lastEngine.trans engine.symm, lastCalls⟩

/-- A program that counts twice and halts, with a breakpoint in front of the second count. -/
def twoCounts : Debugger WordMachine where
  engine := .start [0x02010000, 0x02010000, 0]
  config := ⟨5⟩
  symbols := .empty
  breakpoints := .ofList [1]
  status := .ready

theorem twoCounts_pauses :
    let alone := { twoCounts with breakpoints := .empty, config := ⟨3⟩ }
    let between : Nat → List Operation := fun _ => [.setBreakpoint (.address 2), .readMemory 1]
    twoCounts.status ≠ .halted ∧ alone.run.result = .ok .halted ∧
      (twoCounts.performAll [.run, .clearBreakpoints, .step]).engine = after twoCounts.engine 2 ∧
      ∃ last < 3, (∀ i < last, Paused (twoCounts.beforeRun between i).run.result) ∧
        (twoCounts.beforeRun between last).run.result = .ok .halted ∧
        (twoCounts.recording.beforeRun between last).run.calls =
          Recorded.attempts twoCounts.engine 3 := by
  intro alone between
  have awake : twoCounts.status ≠ .halted := by decide
  have halted : alone.run.result = .ok .halted := by decide
  obtain ⟨anyhow, client⟩ := pauses_change_nothing twoCounts awake
  have two : attemptCount (twoCounts.callsOf [.run, .clearBreakpoints, .step]) = 2 := by decide
  have three : attemptCount alone.recording.run.calls = 3 := by decide
  have watched := (anyhow [.run, .clearBreakpoints, .step] (by decide)).1
  obtain ⟨last, within, paused, result, _, calls⟩ := client 3 (.inl halted) twoCounts rfl awake
    (by decide) between fun _ => by decide
  rw [two] at watched
  rw [three] at within calls
  exact ⟨awake, halted, watched, last, within, paused, result.trans halted, calls⟩

end Debugger
end Stepper
