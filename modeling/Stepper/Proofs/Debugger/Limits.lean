import Stepper.Proofs.Debugger.Reporting

/-!
Limits of runs add up. A run that has used up its limit leaves the debugger just where a run with a
greater limit passes, so running on with the rest comes to the same. A run that anything else has
stopped never gets to its limit, and does not tell it from a greater one.
-/
namespace Stepper.Debugger
open Machine

variable {σ ε : Type}

def withLimit (d : Debugger σ) (limit : UInt64) : Debugger σ :=
  { d with config := { d.config with runStepLimit := limit } }

/-- The outcome has this result and, the limit aside, leaves this debugger behind. -/
structure Outcome.Yields (outcome : Outcome σ ε Status) (result : Except (Error ε) Status)
    (next : Debugger σ) : Prop where
  result_eq : outcome.result = result
  debugger_eq : ∀ limit, outcome.debugger.withLimit limit = next.withLimit limit

/-- Two outcomes are the same apart from the limit and the report. -/
def Outcome.SameButLimit (outcome other : Outcome σ ε Status) : Prop :=
  outcome.Yields other.result other.debugger

theorem Outcome.Yields.same {outcome other : Outcome σ ε Status} {result : Except (Error ε) Status}
    {next : Debugger σ} (yields : outcome.Yields result next) (also : other.Yields result next) :
    outcome.SameButLimit other where
  result_eq := yields.result_eq.trans also.result_eq.symm
  debugger_eq := fun limit => (yields.debugger_eq limit).trans (also.debugger_eq limit).symm

/-- The run stopped because it had used up its limit. -/
def Outcome.UsedUp (outcome : Outcome σ ε Status) : Prop :=
  ∃ limit, Entry.limitReached limit ∈ Trace.flatten outcome.trace

variable [Engine σ ε]

def runFor (d : Debugger σ) (limit : UInt64) : Outcome σ ε Status := (d.withLimit limit).run

/-- Goes on with another run if the first one says that the program is ready for it. -/
def Outcome.thenRunFor (first : Outcome σ ε Status) (limit : UInt64) : Outcome σ ε Status :=
  match first.result with
  | .ok .ready => first.debugger.runFor limit
  | _ => first

variable {d : Debugger σ} {limit : UInt64}

theorem Outcome.Yields.thenRunFor_of_ready {first : Outcome σ ε Status} {next : Debugger σ}
    (yields : first.Yields (.ok .ready) next) : first.thenRunFor limit = next.runFor limit := by
  unfold thenRunFor
  rw [yields.result_eq]
  exact congrArg run (yields.debugger_eq limit)

theorem Outcome.Yields.thenRunFor_of_ne_ready {first : Outcome σ ε Status}
    {result : Except (Error ε) Status} {next : Debugger σ} (yields : first.Yields result next)
    (ended : result ≠ .ok .ready) : first.thenRunFor limit = first := by
  unfold thenRunFor
  split
  · next ready => exact absurd (yields.result_eq.symm.trans ready) ended
  · rfl

theorem runFor_of_halted (asleep : d.status = .halted) :
    (d.runFor limit : Outcome σ ε Status).Yields (.error .halted) d := by
  have ran : (d.runFor limit : Outcome σ ε Status) = _ :=
    run_of_halted (d := d.withLimit limit) asleep
  rw [ran]
  exact ⟨rfl, fun _ => rfl⟩

theorem runFor_of_quiet (awake : d.status ≠ .halted)
    (quiet : Quiet d.breakpoints d.engine limit.toNat) :
    (d.runFor limit : Outcome σ ε Status).Yields (.ok (d.quietly limit.toNat).status)
      (d.quietly limit.toNat) := by
  have ran : (d.runFor limit : Outcome σ ε Status) = _ :=
    run_of_quiet (d := d.withLimit limit) awake quiet
  rw [ran]
  exact ⟨rfl, fun _ => rfl⟩

theorem runFor_of_first {n : Nat} {stop : Stop ε} (awake : d.status ≠ .halted)
    (within : n < limit.toNat) (quiet : Quiet d.breakpoints d.engine n)
    (ends : Ends d.breakpoints (after d.engine n) stop) :
    (d.runFor limit : Outcome σ ε Status).Yields stop.answer ((d.quietly n).stopped stop) := by
  have ran : (d.runFor limit : Outcome σ ε Status) = _ :=
    run_of_first (d := d.withLimit limit) awake within quiet ends
  rw [ran]
  exact ⟨rfl, fun _ => rfl⟩

theorem usedUp_of_quiet (awake : d.status ≠ .halted)
    (quiet : Quiet d.breakpoints d.engine limit.toNat) :
    (d.runFor limit : Outcome σ ε Status).UsedUp := by
  have reported := reported_of_quiet (d := d.withLimit limit) awake quiet
  refine ⟨limit, ?_⟩
  rw [runFor, reported.entries]
  simp [withLimit]

/-- The second run starts where the first one has ended, so its quiet steps follow the others. -/
theorem runFor_of_quietly {m n : UInt64} (sum : (m + n).toNat = m.toNat + n.toNat)
    (awake : d.status ≠ .halted) (quiet : Quiet d.breakpoints d.engine m.toNat) :
    (d.runFor (m + n) : Outcome σ ε Status).SameButLimit ((d.quietly m.toNat).runFor n) := by
  have awakeStill := quietly_ne_halted awake m.toNat
  rcases quiet_or_first d.breakpoints (after d.engine m.toNat) n.toNat with
    ahead | ⟨k, within, ahead, stop, ends⟩
  · have second := runFor_of_quiet (ε := ε) (d := d.quietly m.toNat) awakeStill ahead
    have all := quiet.append ahead
    rw [quietly_quietly, ← sum] at second
    rw [← sum] at all
    exact (runFor_of_quiet awake all).same second
  · have second := runFor_of_first (d := d.quietly m.toNat) awakeStill within ahead ends
    rw [quietly_quietly] at second
    rw [after_after] at ends
    exact (runFor_of_first awake (by omega) (quiet.append ahead) ends).same second

theorem runFor_add {m n : UInt64} (moving : 0 < m) (fits : m.toNat + n.toNat < UInt64.size) :
    (d.runFor (m + n) : Outcome σ ε Status).SameButLimit ((d.runFor m).thenRunFor n) := by
  have sum : (m + n).toNat = m.toNat + n.toNat := by
    rw [UInt64.toNat_add, Nat.mod_eq_of_lt fits]
  rcases eq_or_ne d.status .halted with asleep | awake
  · have first : (d.runFor m : Outcome σ ε Status).Yields (.error .halted) d :=
      runFor_of_halted asleep
    rw [first.thenRunFor_of_ne_ready nofun]
    exact (runFor_of_halted asleep).same first
  · rcases quiet_or_first d.breakpoints d.engine m.toNat with quiet | ⟨k, within, quiet, stop, ends⟩
    · have ready : (d.quietly m.toNat).status = .ready :=
        if_neg (UInt64.lt_iff_toNat_lt.1 moving).ne'
      have first := runFor_of_quiet (ε := ε) awake quiet
      rw [ready] at first
      rw [first.thenRunFor_of_ready]
      exact runFor_of_quietly sum awake quiet
    · have first := runFor_of_first awake within quiet ends
      rw [first.thenRunFor_of_ne_ready (stop_answer_ne_ready stop)]
      exact (runFor_of_first awake (by omega) quiet ends).same first

/-- A first part of zero is none: it does not even get away from a breakpoint. -/
example :
    let paused := { idleOnce with status := .breakpointHit }
    (paused.runFor (0 + 5)).result = .ok .halted ∧
      ((paused.runFor 0).thenRunFor 5).result = .ok .breakpointHit := by decide

theorem runFor_of_larger {larger : UInt64} (le : limit ≤ larger)
    (stopped : ¬ (d.runFor limit : Outcome σ ε Status).UsedUp) :
    (d.runFor larger : Outcome σ ε Status).SameButLimit (d.runFor limit) ∧
      (d.runFor larger : Outcome σ ε Status).trace = (d.runFor limit).trace := by
  rcases eq_or_ne d.status .halted with asleep | awake
  · refine ⟨(runFor_of_halted asleep).same (runFor_of_halted asleep), ?_⟩
    rw [runFor, run_of_halted (d := d.withLimit larger) asleep, runFor,
      run_of_halted (d := d.withLimit limit) asleep]
  · rcases quiet_or_first d.breakpoints d.engine limit.toNat with
      quiet | ⟨n, within, quiet, stop, ends⟩
    · exact absurd (usedUp_of_quiet awake quiet) stopped
    · have further : n < larger.toNat := within.trans_le (UInt64.le_iff_toNat_le.1 le)
      refine ⟨(runFor_of_first awake further quiet ends).same
        (runFor_of_first awake within quiet ends), ?_⟩
      rw [runFor, run_of_first (d := d.withLimit larger) awake further quiet ends, runFor,
        run_of_first (d := d.withLimit limit) awake within quiet ends]
      rfl

theorem runFor_one : (d.runFor 1 : Outcome σ ε Status).SameButLimit d.step := by
  rcases eq_or_ne d.status .halted with asleep | awake
  · have stepped : (d.step : Outcome σ ε Status).Yields (.error .halted) d := by
      rw [step, if_pos asleep]
      exact ⟨rfl, fun _ => rfl⟩
    exact (runFor_of_halted asleep).same stepped
  · rcases quiet_or_first d.breakpoints d.engine 1 with quiet | ⟨n, within, quiet, stop, ends⟩
    · have stepped : (d.step : Outcome σ ε Status) = _ := step_of_not_stops awake (quiet 0 one_pos)
      have ran : (d.runFor 1 : Outcome σ ε Status).Yields _ _ := runFor_of_quiet awake quiet
      rw [stepped]
      exact ran.same ⟨rfl, fun _ => rfl⟩
    · obtain rfl : n = 0 := Nat.lt_one_iff.1 within
      have ran : (d.runFor 1 : Outcome σ ε Status).Yields _ _ :=
        runFor_of_first awake within quiet ends
      rw [step_of_ends awake ends]
      exact ran.same ⟨rfl, fun _ => rfl⟩

/-- The limits of the first part have a sum of 64 bits, and the first of them is not zero. -/
theorem limits_compose (d : Debugger σ) :
    (∀ m n : UInt64, 0 < m → m.toNat + n.toNat < UInt64.size →
      (d.runFor (m + n) : Outcome σ ε Status).SameButLimit ((d.runFor m).thenRunFor n)) ∧
    (∀ limit larger : UInt64, limit ≤ larger → ¬ (d.runFor limit : Outcome σ ε Status).UsedUp →
      (d.runFor larger : Outcome σ ε Status).SameButLimit (d.runFor limit) ∧
        (d.runFor larger : Outcome σ ε Status).trace = (d.runFor limit).trace) ∧
    (d.runFor 1 : Outcome σ ε Status).SameButLimit d.step :=
  ⟨fun _ _ moving fits => runFor_add moving fits, fun _ _ le stopped => runFor_of_larger le stopped,
    runFor_one⟩

theorem idleOnce_limits :
    (0 : UInt64) < 1 ∧ (1 : UInt64).toNat + (4 : UInt64).toNat < UInt64.size ∧
      (idleOnce.runFor 1).result = .ok .ready ∧
      (idleOnce.runFor (1 + 4)).SameButLimit ((idleOnce.runFor 1).thenRunFor 4) ∧
      ¬ (idleOnce.runFor 2).UsedUp ∧ (idleOnce.runFor 5).SameButLimit (idleOnce.runFor 2) ∧
      (idleOnce.runFor 5).trace = (idleOnce.runFor 2).trace := by
  obtain ⟨add, larger, _⟩ := limits_compose idleOnce
  have unused : ¬ (idleOnce.runFor 2).UsedUp := by
    rintro ⟨limit, listed⟩
    have entries : Trace.flatten (idleOnce.runFor 2).trace =
        [.run, .attempt 0, .attempt 1, .halted] := rfl
    rw [entries] at listed
    simp [Entry.limitReached, Entry.run, Entry.attempt, Entry.halted] at listed
  exact ⟨by decide, by decide, by decide, add 1 4 (by decide) (by decide), unused,
    larger 2 5 (by decide) unused⟩

end Stepper.Debugger
