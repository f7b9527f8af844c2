import Stepper.Session
import Stepper.Proofs.Debugger.Loading
import Stepper.Proofs.Debugger.Run

/-!
What an operation leaves alone. There are five kinds of operations, and each has its own part of the
debugger to change: the breakpoints, the machine with the status, the machine alone, or all that
belongs to the program. Nothing changes the settings.
-/
namespace Stepper
open Machine

/-- The part of the debugger that an operation is for. -/
inductive Operation.Kind where
  | looks
  | edits
  | executes
  | writes
  | loads
deriving DecidableEq

def Operation.kind : Operation → Kind
  | .setBreakpoint _ | .removeBreakpoint _ | .clearBreakpoints => .edits
  | .step | .run => .executes
  | .writeRegister .. | .writeMemory .. => .writes
  | .load .. | .loadImage .. => .loads
  | .resolve _ | .isBreakpoint _ | .readRegister _ | .readMemory _ | .symbolize _ | .symbols
  | .config => .looks

/-- The image that an operation is to load, if it is to load one that can be read. -/
def Operation.image? : Operation → Option Image
  | .loadImage image _ => some image
  | .load program _ => program.bytes.toOption
  | _ => none

namespace Debugger

variable {σ ε : Type} [Engine σ ε] {d : Debugger σ}

/-- What an operation may make of a debugger. -/
inductive Change (d : Debugger σ) (operation : Operation) (outcome : Outcome σ ε Answer) :
    Prop where
  | looked (kind : operation.kind = .looks) (next : outcome.debugger = d)
  | edited (kind : operation.kind = .edits) (breakpoints : Breakpoints)
    (next : outcome.debugger = { d with breakpoints := breakpoints })
  | executed (kind : operation.kind = .executes) (attempts : Nat) (status : Status)
    (next : outcome.debugger = { d with engine := after d.engine attempts, status := status })
  | written (kind : operation.kind = .writes) (engine : σ)
    (next : outcome.debugger = { d with engine := engine })
  | refused (kind : operation.kind = .loads) (engine : σ) (failed : outcome.result.isOk = false)
    (next : outcome.debugger = { d with engine := engine })
  | loaded (kind : operation.kind = .loads) (engine : σ) (symbols : SymbolTable)
    (done : outcome.result.isOk = true) (next : outcome.debugger = d.withProgram engine symbols)

theorem exists_step_debugger (d : Debugger σ) : ∃ attempts status,
    (d.step : Outcome σ ε Status).debugger =
      { d with engine := after d.engine attempts, status := status } := by
  by_cases asleep : d.status = .halted
  · have same : (d.step : Outcome σ ε Status).debugger = d := by simp [step, asleep]
    exact ⟨0, d.status, same⟩
  · cases answer : (Engine.advance d.engine).1 with
    | error fault =>
      rw [step_of_faulted asleep answer]
      exact ⟨1, d.status, rfl⟩
    | ok executed =>
      rw [step_of_executed asleep answer]
      exact ⟨1, _, rfl⟩

theorem exists_run_debugger (d : Debugger σ) : ∃ attempts status,
    (d.run : Outcome σ ε Status).debugger =
      { d with engine := after d.engine attempts, status := status } := by
  by_cases asleep : d.status = .halted
  · rw [run_of_halted asleep]
    exact ⟨0, d.status, rfl⟩
  · rcases quiet_or_first d.breakpoints d.engine d.config.runStepLimit.toNat with
      quiet | ⟨n, within, quiet, stop, ends⟩
    · rw [run_of_quiet asleep quiet]
      exact ⟨d.config.runStepLimit.toNat, _, rfl⟩
    · rw [run_of_first asleep within quiet ends]
      exact ⟨n + 1, _, rfl⟩

/-- A load that is refused may still leave its traces in the machine. -/
def Reloads (d : Debugger σ) (outcome : Outcome σ ε Unit) : Prop :=
  (outcome.result.isOk = false ∧ ∃ engine, outcome.debugger = { d with engine := engine }) ∨
    (outcome.result.isOk = true ∧ ∃ engine symbols, outcome.debugger = d.withProgram engine symbols)

theorem ImageLoad.reloads {image : Image} {symbols : SymbolTable} {outcome : Outcome σ ε Unit}
    (ends : ImageLoad d image symbols outcome) : d.Reloads outcome := by
  cases ends with
  | rejected => exact .inl ⟨rfl, d.engine, rfl⟩
  | strayed => exact .inl ⟨rfl, d.engine, rfl⟩
  | failed => exact .inl ⟨rfl, _, rfl⟩
  | loaded => exact .inr ⟨rfl, _, symbols, rfl⟩

theorem FileLoad.reloads {program symbolFile : File} {outcome : Outcome σ ε Unit}
    (ends : FileLoad d program symbolFile outcome) : d.Reloads outcome := by
  cases ends with
  | noProgram => exact .inl ⟨rfl, d.engine, rfl⟩
  | noSymbols => exact .inl ⟨rfl, d.engine, rfl⟩
  | both => exact (loadImage_cases d _ _).reloads

theorem Reloads.change {outcome : Outcome σ ε Unit} {operation : Operation}
    (kind : operation.kind = .loads) (reloads : d.Reloads outcome) :
    d.Change operation (outcome.map fun _ => .done) := by
  have same : (outcome.map fun _ => Answer.done).result.isOk = outcome.result.isOk := by
    unfold Outcome.map
    cases outcome.result <;> rfl
  rcases reloads with ⟨failed, engine, next⟩ | ⟨done, engine, symbols, next⟩
  · exact .refused kind engine (same.trans failed) next
  · exact .loaded kind engine symbols (same.trans done) next

theorem perform_change (d : Debugger σ) (operation : Operation) :
    d.Change operation (d.perform operation : Outcome σ ε Answer) := by
  cases operation with
  | load program symbolFile => exact (load_cases d program symbolFile).reloads.change rfl
  | loadImage image symbols => exact (loadImage_cases d image symbols).reloads.change rfl
  | setBreakpoint location =>
    rw [perform, setBreakpoint]
    cases d.locate location with
    | error cause => exact .edited rfl d.breakpoints rfl
    | ok addr => exact .edited rfl _ rfl
  | removeBreakpoint location =>
    rw [perform, removeBreakpoint]
    cases d.locate location with
    | error cause => exact .edited rfl d.breakpoints rfl
    | ok addr => exact .edited rfl _ rfl
  | clearBreakpoints => exact .edited rfl .empty rfl
  | step =>
    obtain ⟨attempts, status, next⟩ := exists_step_debugger d
    exact .executed rfl attempts status next
  | run =>
    obtain ⟨attempts, status, next⟩ := exists_run_debugger d
    exact .executed rfl attempts status next
  | writeRegister name value =>
    rw [perform, writeRegister]
    cases d.checkRegister name with
    | error cause => exact .written rfl d.engine rfl
    | ok _ => exact .written rfl _ rfl
  | writeMemory addr value =>
    rw [perform, writeMemory]
    cases d.checkMemory addr with
    | error cause => exact .written rfl d.engine rfl
    | ok _ => exact .written rfl _ rfl
  | resolve | isBreakpoint | readRegister | readMemory | symbolize | symbols | config =>
    exact .looked rfl rfl

theorem config_perform (d : Debugger σ) (operation : Operation) :
    (d.perform operation : Outcome σ ε Answer).debugger.config = d.config := by
  cases perform_change d operation with
  | looked _ next => rw [next]
  | edited _ _ next => rw [next]
  | executed _ _ _ next => rw [next]
  | written _ _ next => rw [next]
  | refused _ _ _ next => rw [next]
  | loaded _ _ _ _ next =>
    rw [next]
    rfl

theorem config_performAll (d : Debugger σ) (operations : List Operation) :
    (d.performAll operations).config = d.config := by
  induction operations generalizing d with
  | nil => rfl
  | cons operation rest ih => rw [performAll_cons, ih, config_perform]

end Debugger
end Stepper
