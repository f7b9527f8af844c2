import Stepper.Proofs.Session.Contract

/-!
What a machine keeps, a session keeps. A debugger changes its machine by the operations of the
machine alone, and by these only where the machine is meant for them, so it is enough to look at
what these do. Over a record there is a single thing to look at, the next call.
-/
namespace Stepper

/-- The property is kept by a machine that is used as it is meant to be. -/
structure Machine.KeptInUse {σ ε : Type} [Engine σ ε] (Holds : σ → Prop) : Prop where
  load : ∀ machine image extent, Holds machine → Engine.extent machine image = .ok extent →
    Holds (Engine.load machine image).2
  advance : ∀ machine, Holds machine → Holds (Engine.advance machine).2
  writeRegister : ∀ machine name value, Holds machine → Engine.hasRegister machine name = true →
    Holds (Engine.writeRegister machine name value)
  writeMemory : ∀ machine addr value, Holds machine → addr < Engine.memorySize machine →
    Holds (Engine.writeMemory machine addr value)

variable {σ ε : Type} [Engine σ ε]

namespace Machine.KeptInUse

variable {Holds : σ → Prop} {d : Debugger σ}

theorem result (kept : KeptInUse Holds) {call : Call σ} (proper : call.Proper)
    (holds : Holds call.machine) : Holds call.result := by
  obtain ⟨command, machine⟩ := call
  cases command with
  | load image =>
    obtain ⟨extent, accepted⟩ := proper
    exact kept.load machine image extent holds accepted
  | advance => exact kept.advance machine holds
  | writeRegister name value => exact kept.writeRegister machine name value holds proper
  | writeMemory addr value => exact kept.writeMemory machine addr value holds proper
  | readRegister | readMemory => exact holds

theorem after (kept : KeptInUse Holds) {machine : σ} (holds : Holds machine) (n : Nat) :
    Holds (Machine.after machine n) := by
  induction n with
  | zero => exact holds
  | succ n ih => exact kept.advance _ ih

theorem imageLoad (kept : KeptInUse Holds) (holds : Holds d.engine) {image : Image}
    {symbols : SymbolTable} {outcome : Debugger.Outcome σ ε Unit}
    (ends : Debugger.ImageLoad d image symbols outcome) : Holds outcome.debugger.engine := by
  cases ends with
  | rejected => exact holds
  | strayed => exact holds
  | failed fits | loaded fits =>
    obtain ⟨extent, accepted, -⟩ := fits
    exact kept.load _ image extent holds accepted

theorem fileLoad (kept : KeptInUse Holds) (holds : Holds d.engine) {program symbolFile : File}
    {outcome : Debugger.Outcome σ ε Unit}
    (ends : Debugger.FileLoad d program symbolFile outcome) : Holds outcome.debugger.engine := by
  cases ends with
  | noProgram => exact holds
  | noSymbols => exact holds
  | @both image symbols =>
    have held := kept.imageLoad holds (Debugger.loadImage_cases d image symbols)
    exact held

theorem perform (kept : KeptInUse Holds) (holds : Holds d.engine) (operation : Operation) :
    Holds (d.perform operation : Debugger.Outcome σ ε Answer).debugger.engine := by
  cases operation with
  | load program symbolFile => exact kept.fileLoad holds (Debugger.load_cases d program symbolFile)
  | loadImage image symbols =>
    exact kept.imageLoad holds (Debugger.loadImage_cases d image symbols)
  | setBreakpoint location =>
    rw [Debugger.perform, Debugger.setBreakpoint]
    cases d.locate location <;> exact holds
  | removeBreakpoint location =>
    rw [Debugger.perform, Debugger.removeBreakpoint]
    cases d.locate location <;> exact holds
  | step =>
    obtain ⟨attempts, status, next⟩ := Debugger.exists_step_debugger d
    rw [Debugger.perform, Debugger.Outcome.map, next]
    exact kept.after holds attempts
  | run =>
    obtain ⟨attempts, status, next⟩ := Debugger.exists_run_debugger d
    rw [Debugger.perform, Debugger.Outcome.map, next]
    exact kept.after holds attempts
  | writeRegister name value =>
    rw [Debugger.perform, Debugger.writeRegister, Debugger.checkRegister]
    by_cases known : Engine.hasRegister d.engine name = true
    · rw [if_pos known]
      exact kept.writeRegister _ name value holds known
    · rw [if_neg known]
      exact holds
  | writeMemory addr value =>
    rw [Debugger.perform, Debugger.writeMemory, Debugger.checkMemory]
    by_cases within : addr < Engine.memorySize d.engine
    · rw [if_pos within]
      exact kept.writeMemory _ addr value holds within
    · rw [if_neg within]
      exact holds
  | resolve | isBreakpoint | clearBreakpoints | readRegister | readMemory | symbolize | symbols
  | config => exact holds

theorem performAll (kept : KeptInUse Holds) (holds : Holds d.engine)
    (operations : List Operation) : Holds (d.performAll operations).engine := by
  induction operations generalizing d with
  | nil => exact holds
  | cons operation rest ih => exact ih (kept.perform holds operation)

end Machine.KeptInUse

namespace Recorded

/-- The property is kept by every call that is entered in a record and is one that the machine is
meant for. -/
def KeptByCalls (Holds : Recorded σ → Prop) : Prop :=
  ∀ recorded command, Holds recorded → Call.Proper ⟨command, recorded.machine⟩ →
    Holds (recorded.note command (Call.result ⟨command, recorded.machine⟩))

namespace KeptByCalls

variable {Holds : Recorded σ → Prop} {d : Debugger (Recorded σ)}

theorem inUse (kept : KeptByCalls Holds) : Machine.KeptInUse Holds where
  load _ image extent holds accepted := kept _ (.load image) holds ⟨extent, accepted⟩
  advance _ holds := kept _ .advance holds trivial
  writeRegister _ name value holds known := kept _ (.writeRegister name value) holds known
  writeMemory _ addr value holds within := kept _ (.writeMemory addr value) holds within

theorem performNoting (kept : KeptByCalls Holds) (holds : Holds d.engine)
    (operation : Operation) : Holds (d.performNoting operation).engine := by
  rcases Debugger.performNoting_cases d operation with silent | ⟨command, notes⟩
  · rw [silent]
    exact kept.inUse.perform holds operation
  · have entered := kept d.engine command holds notes.proper
    rw [Call.result_of_reads notes.reads] at entered
    rw [notes.noted]
    exact entered

theorem performAllNoting (kept : KeptByCalls Holds) (holds : Holds d.engine)
    (operations : List Operation) : Holds (d.performAllNoting operations).engine := by
  induction operations generalizing d with
  | nil => exact holds
  | cons operation rest ih => exact ih (kept.performNoting holds operation)

end KeptByCalls
end Recorded
end Stepper
