import Stepper.Proofs.Session.Access
import Stepper.Proofs.Session.Reloading

/-!
Operations that may trade places. Writes to different cells do not meet, and breakpoints, symbols
and settings are no part of the machine, so what is about these does not see a write.
-/
namespace Stepper

/-- The operation is about breakpoints, symbols or settings, and never asks the machine. -/
def Operation.sparesMachine : Operation → Bool
  | .resolve _ | .setBreakpoint _ | .removeBreakpoint _ | .isBreakpoint _ | .clearBreakpoints
  | .symbolize _ | .symbols | .config => true
  | _ => false

/-- Operations that may trade places. -/
inductive Operation.Unrelated : Operation → Operation → Prop where
  | writes {cell other : Cell} (apart : cell ≠ other) (value otherValue : Word) :
    Unrelated (cell.write value) (other.write otherValue)
  | writeFirst (cell : Cell) (value : Word) (operation : Operation)
    (spares : operation.sparesMachine) : Unrelated (cell.write value) operation
  | writeSecond (cell : Cell) (value : Word) (operation : Operation)
    (spares : operation.sparesMachine) : Unrelated operation (cell.write value)

namespace Debugger

/-- Two operations answer the same and lead to the same debugger in either order. -/
structure Commute (d : Debugger WordMachine) (first second : Operation) : Prop where
  firstResult : ((d.perform second).debugger.perform first).result = (d.perform first).result
  secondResult : ((d.perform first).debugger.perform second).result = (d.perform second).result
  next : ((d.perform second).debugger.perform first).debugger =
    ((d.perform first).debugger.perform second).debugger

variable {first second operation : Operation}

theorem Commute.symm {d : Debugger WordMachine} (commute : d.Commute first second) :
    d.Commute second first :=
  ⟨commute.secondResult, commute.firstResult, commute.next.symm⟩

theorem locate_with_engine (d : Debugger WordMachine) (engine : WordMachine) (location : Location) :
    locate { d with engine := engine } location =
      (d.locate location : Except (Error WordMachine.Fault) Address) := by
  cases location <;> rfl

/-- Another machine makes no difference to such an operation, nor does the operation to it. -/
theorem perform_with_engine (d : Debugger WordMachine) (spares : operation.sparesMachine)
    (engine : WordMachine) :
    perform { d with engine := engine } operation =
      { d.perform operation with
        debugger := { (d.perform operation).debugger with engine := engine } } := by
  cases operation with
  | setBreakpoint location =>
    rw [perform, perform, setBreakpoint, setBreakpoint, locate_with_engine]
    cases d.locate location <;> rfl
  | removeBreakpoint location =>
    rw [perform, perform, removeBreakpoint, removeBreakpoint, locate_with_engine]
    cases d.locate location <;> rfl
  | resolve | isBreakpoint | clearBreakpoints | symbolize | symbols | config => rfl
  | load | loadImage | step | run | readRegister | readMemory | writeRegister | writeMemory =>
    cases spares

theorem engine_perform_of_spares (d : Debugger WordMachine) (spares : operation.sparesMachine) :
    (d.perform operation).debugger.engine = d.engine :=
  congrArg (·.debugger.engine) (perform_with_engine d spares d.engine)

theorem commute_write_write (d : Debugger WordMachine) {cell other : Cell} (apart : cell ≠ other)
    (value otherValue : Word) : d.Commute (cell.write value) (other.write otherValue) where
  firstResult := by rw [result_write, result_write]
  secondResult := by rw [result_write, result_write]
  next := by
    simp only [debugger_write]
    rw [d.engine.put_comm apart]

theorem commute_write_spares (d : Debugger WordMachine) (cell : Cell) (value : Word)
    (spares : operation.sparesMachine) : d.Commute (cell.write value) operation where
  firstResult := by rw [result_write, result_write]
  secondResult := by
    rw [debugger_write, perform_with_engine d spares (d.engine.put cell value)]
  next := by
    rw [debugger_write, debugger_write, perform_with_engine d spares (d.engine.put cell value),
      engine_perform_of_spares d spares]

end Debugger

theorem Operation.Unrelated.commute {first second : Operation} (unrelated : first.Unrelated second)
    (d : Debugger WordMachine) : d.Commute first second := by
  cases unrelated with
  | writes apart value otherValue => exact d.commute_write_write apart value otherValue
  | writeFirst cell value _ spares => exact d.commute_write_spares cell value spares
  | writeSecond cell value _ spares => exact (d.commute_write_spares cell value spares).symm

namespace Debugger

/-- What the operations of a sequence answer, one after the other. -/
def results (d : Debugger WordMachine) (operations : List Operation) :
    List (Except (Error WordMachine.Fault) Answer) :=
  (d.outcomes operations).map (·.result)

theorem results_append (d : Debugger WordMachine) (front back : List Operation) :
    d.results (front ++ back) = d.results front ++ (d.performAll front).results back := by
  rw [results, outcomes_append, List.map_append]
  rfl

theorem results_cons (d : Debugger WordMachine) (operation : Operation) (rest : List Operation) :
    d.results (operation :: rest) =
      (d.perform operation).result :: (d.perform operation).debugger.results rest := rfl

theorem Commute.results_swap {d : Debugger WordMachine} {front : List Operation}
    {first second : Operation} (commute : (d.performAll front).Commute first second)
    (back : List Operation) :
    ∃ earlier one two later, earlier.length = front.length ∧
      d.results (front ++ first :: second :: back) = earlier ++ one :: two :: later ∧
      d.results (front ++ second :: first :: back) = earlier ++ two :: one :: later := by
  have counted : (d.results front).length = front.length := by
    rw [results, List.length_map, length_outcomes]
  refine ⟨d.results front, ((d.performAll front).perform first).result,
    ((d.performAll front).perform second).result,
    (((d.performAll front).perform first).debugger.perform second).debugger.results back,
    counted, ?_, ?_⟩
  · rw [results_append, results_cons, results_cons, commute.secondResult]
  · rw [results_append, results_cons, results_cons, commute.firstResult, commute.next]

theorem Commute.performAll_swap {d : Debugger WordMachine} {front : List Operation}
    {first second : Operation} (commute : (d.performAll front).Commute first second)
    (back : List Operation) :
    d.performAll (front ++ second :: first :: back) =
      d.performAll (front ++ first :: second :: back) := by
  rw [performAll_append, performAll_append, performAll_cons, performAll_cons, commute.next]
  rfl

end Debugger
end Stepper
