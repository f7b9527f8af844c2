import Mathlib.Data.List.Induction
import Stepper.Proofs.Session.BreakpointHistory
import Stepper.Proofs.Session.Commuting

/-!
Operations that do not execute touch only what they name. Nothing but breakpoints and cells ever
changes, and the last write to a cell that succeeded tells what the cell holds.
-/
namespace Stepper

/-- The word that a request puts into a cell, if it succeeds in doing so. -/
def Request.written? (cell : Cell) (request : Request WordMachine) : Option Word :=
  if (request.debugger.perform request.operation).result.isOk then
    match request.operation with
    | .writeRegister name value => if .register name = cell then some value else none
    | .writeMemory addr value => if .memory addr = cell then some value else none
    | _ => none
  else none

/-- The last word that was put into a cell. -/
def Request.lastWritten? (cell : Cell) (requests : List (Request WordMachine)) : Option Word :=
  (requests.filterMap (written? cell)).getLast?

namespace Request

variable (d : Debugger WordMachine) {operation : Operation}

theorem written?_write (cell other : Cell) (value : Word) :
    written? cell ⟨d, other.write value⟩ =
      if other.Exists ∧ other = cell then some value else none := by
  unfold written?
  by_cases present : other.Exists
  · rw [if_pos ((d.accessLaws other).write_iff value |>.2 present)]
    cases other <;> simp only [Cell.write, present, true_and]
  · rw [if_neg (fun done => present ((d.accessLaws other).write_iff value |>.1 done)),
      if_neg (fun both => present both.1)]

theorem written?_of_kind (kind : operation.kind ≠ .writes) (cell : Cell) :
    written? cell ⟨d, operation⟩ = none := by
  unfold written?
  split
  · cases operation with
    | writeRegister | writeMemory => exact absurd rfl kind
    | _ => rfl
  · rfl

theorem lastWritten?_concat (cell : Cell) (requests : List (Request WordMachine))
    (request : Request WordMachine) :
    lastWritten? cell (requests ++ [request]) =
      (request.written? cell).or (lastWritten? cell requests) :=
  getLast?_filterMap_concat ..

end Request

namespace Debugger

variable {d next : Debugger WordMachine} {operation : Operation}

/-- The machine has not moved, and all that the debugger keeps besides breakpoints is the same. -/
structure Undisturbed (d next : Debugger WordMachine) : Prop where
  status : next.status = d.status
  pc : next.pc = d.pc
  halted : next.engine.halted = d.engine.halted
  steps : next.engine.steps = d.engine.steps
  symbols : next.symbols = d.symbols
  config : next.config = d.config

theorem Undisturbed.refl (d : Debugger WordMachine) : d.Undisturbed d :=
  ⟨rfl, rfl, rfl, rfl, rfl, rfl⟩

theorem Undisturbed.trans {last : Debugger WordMachine} (first : d.Undisturbed next)
    (second : next.Undisturbed last) : d.Undisturbed last where
  status := second.status.trans first.status
  pc := second.pc.trans first.pc
  halted := second.halted.trans first.halted
  steps := second.steps.trans first.steps
  symbols := second.symbols.trans first.symbols
  config := second.config.trans first.config

/-- Looking and editing leave all of the debugger but its breakpoints. -/
theorem exists_breakpoints_perform (d : Debugger WordMachine)
    (executes : operation.kind ≠ .executes) (loads : operation.kind ≠ .loads)
    (writes : operation.kind ≠ .writes) :
    ∃ breakpoints, (d.perform operation).debugger = { d with breakpoints := breakpoints } := by
  cases perform_change d operation with
  | looked _ next => exact ⟨d.breakpoints, next⟩
  | edited _ breakpoints next => exact ⟨breakpoints, next⟩
  | executed kind => exact absurd kind executes
  | written kind => exact absurd kind writes
  | refused kind => exact absurd kind loads
  | loaded kind => exact absurd kind loads

theorem undisturbed_perform (d : Debugger WordMachine) (executes : operation.kind ≠ .executes)
    (loads : operation.kind ≠ .loads) : d.Undisturbed (d.perform operation).debugger := by
  by_cases writes : operation.kind = .writes
  · obtain ⟨cell, value, rfl⟩ := Operation.exists_write_of_kind writes
    obtain ⟨pc, halted, steps⟩ := d.engine.put_keeps cell value
    rw [perform_write]
    exact ⟨rfl, pc, halted, steps, rfl, rfl⟩
  · obtain ⟨breakpoints, next⟩ := exists_breakpoints_perform d executes loads writes
    rw [next]
    exact ⟨rfl, rfl, rfl, rfl, rfl, rfl⟩

theorem peek_perform (d : Debugger WordMachine) (executes : operation.kind ≠ .executes)
    (loads : operation.kind ≠ .loads) (cell : Cell) :
    (d.perform operation).debugger.peek cell =
      (Request.written? cell ⟨d, operation⟩).elim (d.peek cell) .ok := by
  by_cases writes : operation.kind = .writes
  · obtain ⟨other, value, rfl⟩ := Operation.exists_write_of_kind writes
    rw [perform_write, peek_put, Request.written?_write]
    split <;> rfl
  · obtain ⟨breakpoints, next⟩ := exists_breakpoints_perform d executes loads writes
    rw [Request.written?_of_kind d writes, next, Option.elim_none, peek_eq, peek_eq]

section Sequences

variable {operations : List Operation}

theorem undisturbed_performAll (d : Debugger WordMachine)
    (idle : ∀ operation ∈ operations, operation.kind ≠ .executes ∧ operation.kind ≠ .loads) :
    d.Undisturbed (d.performAll operations) := by
  induction operations generalizing d with
  | nil => exact .refl d
  | cons operation rest ih =>
    obtain ⟨⟨executes, loads⟩, others⟩ := List.forall_mem_cons.1 idle
    exact (undisturbed_perform d executes loads).trans (ih _ others)

/-- The last request decides if it writes the cell; else those before it do. -/
theorem peek_performAll (d : Debugger WordMachine)
    (idle : ∀ operation ∈ operations, operation.kind ≠ .executes ∧ operation.kind ≠ .loads)
    (cell : Cell) :
    (d.performAll operations).peek cell =
      (Request.lastWritten? cell (d.requests operations)).elim (d.peek cell) .ok := by
  induction operations using List.reverseRecOn with
  | nil => rfl
  | append_singleton front last ih =>
    obtain ⟨before, ends⟩ := List.forall_mem_append.1 idle
    obtain ⟨executes, loads⟩ := ends last (List.mem_singleton_self last)
    rw [performAll_append, performAll_cons, performAll_nil, peek_perform _ executes loads,
      ih before, requests_concat, Request.lastWritten?_concat]
    cases Request.written? cell ⟨d.performAll front, last⟩ <;> rfl

end Sequences

/-- Only breakpoints are left out of the first part, and these follow their own history. -/
theorem operations_touch_what_they_name (d : Debugger WordMachine) :
    (∀ operations : List Operation,
      (∀ operation ∈ operations, operation.kind ≠ .executes ∧ operation.kind ≠ .loads) →
        d.Undisturbed (d.performAll operations) ∧
        ∀ cell, (d.performAll operations).peek cell =
          (Request.lastWritten? cell (d.requests operations)).elim (d.peek cell) .ok) ∧
    (∀ cell, d.AccessLaws cell) ∧
    ∀ (front back : List Operation) (first second : Operation), first.Unrelated second →
      d.performAll (front ++ second :: first :: back) =
          d.performAll (front ++ first :: second :: back) ∧
        ∃ earlier one two later, earlier.length = front.length ∧
          d.results (front ++ first :: second :: back) = earlier ++ one :: two :: later ∧
          d.results (front ++ second :: first :: back) = earlier ++ two :: one :: later := by
  refine ⟨fun operations idle => ⟨?_, ?_⟩, accessLaws d, ?_⟩
  · exact undisturbed_performAll d idle
  · exact peek_performAll d idle
  · intro front back first second unrelated
    have commute := unrelated.commute (d.performAll front)
    exact ⟨commute.performAll_swap back, commute.results_swap back⟩

/-- There is no register with this name and no word at this address, and the breakpoint is set in
front of the next instruction. -/
theorem refused_writes_are_not_written :
    let d := ofEngine (WordMachine.start [0x05000000, 4]) ⟨5⟩
    let operations : List Operation :=
      [.writeRegister "r3" 7, .writeMemory 1 8, .setBreakpoint (.address 0), .writeRegister "r4" 9,
        .writeMemory 64 10, .writeMemory 1 11, .setBreakpoint (.label "loop")]
    (∀ operation ∈ operations, operation.kind ≠ .executes ∧ operation.kind ≠ .loads) ∧
      (d.performAll operations).status = d.status ∧ (d.performAll operations).isBreakpoint 0 ∧
      (d.performAll operations).peek (.register "r3") = .ok 7 ∧
      (d.performAll operations).peek (.memory 1) = .ok 11 ∧
      (d.performAll operations).peek (.memory 0) = .ok 0x05000000 ∧
      (d.performAll operations).peek (.memory 64) = .error (.outOfBounds 64) ∧
      d.perform (.writeRegister "r4" 9) = ⟨.error (.invalidRegister "r4"), d, []⟩ ∧
      d.performAll [.setBreakpoint (.address 0), .writeMemory 1 11] =
        d.performAll [.writeMemory 1 11, .setBreakpoint (.address 0)] := by
  intro d operations
  have idle : ∀ operation ∈ operations, operation.kind ≠ .executes ∧ operation.kind ≠ .loads := by
    decide
  obtain ⟨runs, access, swaps⟩ := operations_touch_what_they_name d
  obtain ⟨undisturbed, cells⟩ := runs operations idle
  have swapped := (swaps [] [] _ _ (.writeFirst (.memory 1) 11 (.setBreakpoint (.address 0)) rfl)).1
  refine ⟨idle, undisturbed.status, by decide +kernel, ?_, ?_, ?_, ?_, ?_, swapped⟩
  · rw [cells]
    decide +kernel
  · rw [cells]
    decide +kernel
  · rw [cells]
    decide +kernel
  · rw [cells]
    decide +kernel
  · exact (access (.register "r4")).write_refused (by decide) 9

end Debugger
end Stepper
