import Stepper.Debugger.Basic

/-!
Stepping and running. A breakpoint is looked for behind each instruction and never in front of the
first one, so a program that is paused at a breakpoint gets away from it.
-/
namespace Stepper.Debugger

variable {σ ε : Type} [Engine σ ε]

/-- Where execution stands behind an instruction that did not fault, and what is reported. Halting
comes before a breakpoint. -/
def stand (breakpoints : Breakpoints) (engine : σ) : Status × List Trace :=
  if Engine.isHalted engine then (.halted, [.event .halted])
  else if breakpoints.contains (Engine.pc engine) then
    (.breakpointHit, [.event (.breakpointHit (Engine.pc engine))])
  else (.ready, [])

/-- Executes one instruction. A fault leaves the status as it is. -/
def step (d : Debugger σ) : Outcome σ ε Status :=
  let reporting (inner : List Trace) : List Trace := [.span (.step d.pc) inner]
  if d.status = .halted then ⟨.error .halted, d, reporting []⟩
  else
    match Engine.advance d.engine with
    | (.error fault, engine) =>
      ⟨.error (.execution fault), { d with engine := engine }, reporting []⟩
    | (.ok (), engine) =>
      let (status, seen) := stand d.breakpoints engine
      ⟨.ok status, { d with engine := engine, status := status }, reporting seen⟩

/-- Steps on until something stops it, or until `bound` steps are done; `seen` is what was reported
so far. -/
def continueFor (seen : Array Trace) : Nat → Debugger σ → Outcome σ ε Status
  | 0, d => ⟨.ok d.status, d, (seen.push (.event (.stepLimitReached d.config.runStepLimit))).toList⟩
  | bound + 1, d =>
    let outcome : Outcome σ ε Status := d.step
    match outcome.result with
    | .ok .ready => continueFor (seen ++ outcome.trace) bound outcome.debugger
    | result => ⟨result, outcome.debugger, (seen ++ outcome.trace).toList⟩

theorem continueFor_eq (seen : Array Trace) (bound : Nat) (d : Debugger σ) :
    (continueFor seen bound d : Outcome σ ε Status) =
      { (continueFor #[] bound d : Outcome σ ε Status) with
        trace := seen.toList ++ (continueFor #[] bound d : Outcome σ ε Status).trace } := by
  induction bound generalizing seen d with
  | zero => simp [continueFor]
  | succ bound ih =>
    simp only [continueFor]
    split
    · rw [ih, ih (#[] ++ _)]
      simp
    · simp

/-- Executes instructions until the program halts, faults or meets a breakpoint, at most as many as
the settings allow. -/
def run (d : Debugger σ) : Outcome σ ε Status :=
  if d.status = .halted then ⟨.error .halted, d, [.span .run []]⟩
  else
    let outcome : Outcome σ ε Status := continueFor #[] d.config.runStepLimit.toNat d
    { outcome with trace := [.span .run outcome.trace] }

end Stepper.Debugger
