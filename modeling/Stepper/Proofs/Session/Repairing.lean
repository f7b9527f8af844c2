import Stepper.Proofs.Debugger.Inspecting
import Stepper.Proofs.Machine.Fetching
import Stepper.Proofs.Session.BreakpointHistory

/-!
A fault stays until it is repaired. The word machine faults over the word at its program counter and
leaves everything as it was, so the next attempt meets the same word. Only another program or
another word at this address can help, and behind the end of memory there is no word to write.
-/
namespace Stepper
open Machine

/-- The request loads a program, or it writes the word that is to be executed next. -/
def Request.repairs (request : Request WordMachine) : Bool :=
  (request.debugger.perform request.operation).result.isOk &&
    match request.operation with
    | .load .. | .loadImage .. => true
    | .writeMemory addr _ => addr == request.debugger.pc
    | _ => false

namespace Debugger

variable {d next : Debugger WordMachine} {fault : WordMachine.Fault}

/-- The next step faults. -/
structure Faults (d : Debugger WordMachine) (fault : WordMachine.Fault) : Prop where
  awake : d.status ≠ .halted
  told : d.engine.nextFault? = some fault

theorem Faults.of_step (failed : d.step.result = .error (.execution fault)) : d.Faults fault := by
  by_cases asleep : d.status = .halted
  · rw [step, if_pos asleep] at failed
    cases failed
  · cases answer : (Engine.advance d.engine).1 with
    | error other =>
      rw [step_of_faulted asleep answer] at failed
      cases failed
      exact ⟨asleep, WordMachine.nextFault?_eq_some_iff.2 answer⟩
    | ok _ =>
      rw [step_of_executed asleep answer] at failed
      cases failed

theorem Faults.step_eq (faults : d.Faults fault) :
    d.step = ⟨.error (.execution fault), d, [.span (.step d.pc) []]⟩ := by
  have stays := WordMachine.advance_of_nextFault? faults.told
  rw [step_of_faulted faults.awake (congrArg Prod.fst stays), after_succ, after_zero, stays]

theorem Faults.run_eq (faults : d.Faults fault) :
    (0 < d.config.runStepLimit → d.run.result = .error (.execution fault)) ∧
      d.run.debugger = d := by
  have stays := WordMachine.advance_of_nextFault? faults.told
  have ends : Ends d.breakpoints (after d.engine 0) (.fault fault) :=
    .fault (congrArg Prod.fst stays)
  rcases Nat.eq_zero_or_pos d.config.runStepLimit.toNat with none_left | moving
  · have quiet : Quiet d.breakpoints d.engine d.config.runStepLimit.toNat := by
      rw [none_left]
      exact fun i lt => absurd lt i.not_lt_zero
    rw [run_of_quiet faults.awake quiet, none_left]
    refine ⟨fun moving => ?_, rfl⟩
    rw [UInt64.lt_iff_toNat_lt, none_left] at moving
    exact absurd moving (Nat.lt_irrefl 0)
  · rw [run_of_first faults.awake moving (fun i lt => absurd lt i.not_lt_zero) ends]
    refine ⟨fun _ => rfl, ?_⟩
    rw [quietly_zero, stopped, after_succ, after_zero, stays]
    rfl

/-- The debugger is where the other one is, and has the same word to execute next. -/
structure StaysAt (d next : Debugger WordMachine) : Prop where
  pc : next.engine.pc = d.engine.pc
  word : next.engine.memory[d.engine.pc.toNat]? = d.engine.memory[d.engine.pc.toNat]?
  halted : next.engine.halted = d.engine.halted
  steps : next.engine.steps = d.engine.steps
  status : next.status = d.status
  config : next.config = d.config

theorem StaysAt.faults (stays : d.StaysAt next) (faults : d.Faults fault) : next.Faults fault where
  awake := by
    rw [stays.status]
    exact faults.awake
  told := by
    rw [WordMachine.nextFault?_congr stays.pc stays.word]
    exact faults.told

/-- A load that fails leaves the word machine alone, and with it the whole debugger. -/
theorem perform_of_failed_load {operation : Operation} (kind : operation.kind = .loads)
    (failed : (d.perform operation).result.isOk = false) : (d.perform operation).debugger = d := by
  have refused {outcome : Outcome WordMachine WordMachine.Fault Unit} (spares : d.Spares outcome)
      (failed : (outcome.map fun _ => Answer.done).result.isOk = false) : outcome.debugger = d := by
    cases ended : outcome.result with
    | error cause => exact (spares cause ended).2.2.2.2 wordMachine_failedLoadKeeps
    | ok _ =>
      rw [Outcome.map, ended] at failed
      cases failed
  cases operation with
  | load program symbolFile => exact refused (load_cases d program symbolFile).spares failed
  | loadImage image symbols => exact refused (loadImage_spares d image symbols) failed
  | _ => cases kind

theorem StaysAt.writeRegister (stays : d.StaysAt next) (name : String) (value : Word) :
    d.StaysAt (next.writeRegister name value).debugger := by
  unfold Debugger.writeRegister
  cases next.checkRegister name with
  | error cause => exact stays
  | ok _ =>
    change d.StaysAt { next with engine := next.engine.writeRegister name value }
    unfold WordMachine.writeRegister
    split <;> exact { stays with }

/-- A write elsewhere does not touch the word in question, and one behind the memory is refused. -/
theorem StaysAt.writeMemory (stays : d.StaysAt next) {addr : Address} {value : Word}
    (unrepaired : (Request.mk next (.writeMemory addr value)).repairs = false) :
    d.StaysAt (next.writeMemory addr value).debugger := by
  cases checked : next.checkMemory addr with
  | error cause =>
    rw [Debugger.writeMemory, checked]
    exact stays
  | ok _ =>
    have done : (next.perform (.writeMemory addr value)).result.isOk = true := by
      rw [Debugger.perform, Debugger.writeMemory, checked]
      rfl
    rw [Request.repairs, done, Bool.true_and] at unrepaired
    have elsewhere : addr.toNat ≠ d.engine.pc.toNat := by
      rw [← stays.pc]
      exact fun same => ne_of_beq_false unrepaired (UInt32.toNat_inj.1 same)
    rw [Debugger.writeMemory, checked]
    refine { stays with word := ?_ }
    rw [← stays.word]
    exact Vector.getElem?_setIfInBounds_ne elsewhere

theorem StaysAt.perform (stays : d.StaysAt next) (faults : d.Faults fault) {operation : Operation}
    (unrepaired : (Request.mk next operation).repairs = false) :
    d.StaysAt (next.perform operation).debugger := by
  have same {later : Debugger WordMachine} (unchanged : later = next) : d.StaysAt later := by
    rw [unchanged]
    exact stays
  cases operation with
  | load | loadImage =>
    refine same (perform_of_failed_load rfl ?_)
    rw [← unrepaired, Request.repairs, Bool.and_true]
  | step => exact same (congrArg Outcome.debugger (stays.faults faults).step_eq)
  | run => exact same (stays.faults faults).run_eq.2
  | writeRegister name value => exact stays.writeRegister name value
  | writeMemory addr value => exact stays.writeMemory unrepaired
  | setBreakpoint location =>
    rw [Debugger.perform, setBreakpoint]
    cases next.locate location <;> exact { stays with }
  | removeBreakpoint location =>
    rw [Debugger.perform, removeBreakpoint]
    cases next.locate location <;> exact { stays with }
  | clearBreakpoints => exact { stays with }
  | resolve | isBreakpoint | readRegister | readMemory | symbolize | symbols | config => exact stays

theorem StaysAt.performAll (stays : d.StaysAt next) (faults : d.Faults fault)
    {operations : List Operation}
    (unrepaired : ∀ request ∈ next.requests operations, request.repairs = false) :
    d.StaysAt (next.performAll operations) := by
  induction operations generalizing next with
  | nil => exact stays
  | cons operation rest ih =>
    obtain ⟨first, others⟩ := List.forall_mem_cons.1 unrepaired
    exact ih (stays.perform faults first) others

/-- The sequences of the second part are all those that repair nothing, and every step or run of
such a sequence comes behind one of them. -/
theorem fault_stays_until_repaired (d : Debugger WordMachine) (fault : WordMachine.Fault)
    (faulted : d.step.result = .error (.execution fault)) :
    d.step.debugger = d ∧
      ∀ operations, (∀ request ∈ d.requests operations, request.repairs = false) →
        let next := d.performAll operations
        (next.pc = d.pc ∧ next.status = d.status ∧ next.engine.halted = d.engine.halted ∧
          next.engine.steps = d.engine.steps) ∧
        (next.step.result = .error (.execution fault) ∧ next.step.debugger = next) ∧
        (0 < d.config.runStepLimit → next.run.result = .error (.execution fault)) ∧
        next.run.debugger = next ∧
        (64 ≤ d.pc.toNat → ∀ value,
          (next.writeMemory d.pc value).result = .error (.outOfBounds d.pc)) := by
  have faults := Faults.of_step faulted
  refine ⟨congrArg Outcome.debugger faults.step_eq, ?_⟩
  intro operations unrepaired next
  have start : d.StaysAt d := ⟨rfl, rfl, rfl, rfl, rfl, rfl⟩
  have stays : d.StaysAt next := start.performAll faults unrepaired
  have again := stays.faults faults
  rw [again.step_eq, ← stays.config]
  exact ⟨⟨stays.pc, stays.status, stays.halted, stays.steps⟩, ⟨rfl, rfl⟩, again.run_eq.1,
    again.run_eq.2, fun outside => writeMemory_of_outside outside⟩

/-- A program that does nothing once and then stores to where there is no memory, paused in front of
the store. -/
def pausedBeforeStrayStore : Debugger WordMachine :=
  (ofEngine (.start []) ⟨5⟩).performAll
    [.loadImage [0, 0, 0, 1, 0, 1, 1, 4] .empty, .setBreakpoint (.address 1), .step]

theorem stray_store_stays :
    let operations : List Operation :=
      [.run, .writeRegister "r1" 7, .writeMemory 2 0x01000000, .writeMemory 64 0, .clearBreakpoints,
        .loadImage [0] .empty, .step]
    let next := pausedBeforeStrayStore.performAll operations
    pausedBeforeStrayStore.step.result = .error (.execution (.illegalOpcode 4 1)) ∧
      (∀ request ∈ pausedBeforeStrayStore.requests operations, request.repairs = false) ∧
      next.run.result = .error (.execution (.illegalOpcode 4 1)) ∧ next.run.debugger = next ∧
      next.pc = pausedBeforeStrayStore.pc ∧ next.status = pausedBeforeStrayStore.status := by
  intro operations next
  have faulted : pausedBeforeStrayStore.step.result = .error (.execution (.illegalOpcode 4 1)) := by
    decide
  have unrepaired :
      ∀ request ∈ pausedBeforeStrayStore.requests operations, request.repairs = false := by
    decide +kernel
  obtain ⟨_, stays⟩ := fault_stays_until_repaired _ _ faulted
  obtain ⟨⟨pc, status, _, _⟩, _, runs, same, _⟩ := stays operations unrepaired
  exact ⟨faulted, unrepaired, runs (by decide), same, pc, status⟩

end Debugger
end Stepper
