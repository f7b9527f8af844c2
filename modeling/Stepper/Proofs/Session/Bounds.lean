import Stepper.Proofs.Machine.Arrays
import Stepper.Proofs.Machine.Encoding
import Stepper.Proofs.Session.Access
import Stepper.Proofs.Session.OutOfReach
import Stepper.Proofs.Session.SymbolRange

/-!
The word machine behind a debugger stays within its bounds. What a session asks of it could be asked
of plain arrays as well: no access misses, no address is left behind, and the instructions are
counted. So a breakpoint beyond the reach of the program counter might as well not be there.
-/
namespace Stepper
open Machine WordMachine

namespace Call

section Counting

variable {σ ε : Type} [Engine σ ε]

/-- The calls behind the last one that loaded a program. -/
def sinceLoaded (calls : List (Call σ)) : List (Call σ) := calls.rtakeWhile fun call => !call.loads

/-- The number of instructions that were executed since a program was loaded. -/
def executedCount (calls : List (Call σ)) : Nat := (sinceLoaded calls).countP executes

theorem executedCount_concat (calls : List (Call σ)) (call : Call σ) :
    executedCount (calls ++ [call]) =
      if call.loads then 0 else executedCount calls + if call.executes then 1 else 0 := by
  unfold executedCount sinceLoaded
  rw [List.rtakeWhile_concat]
  by_cases loads : call.loads
  · rw [if_pos loads, if_neg (by simp [loads])]
    rfl
  · rw [if_neg loads, if_pos (by simp [loads]), List.countP_append, List.countP_singleton]

end Counting

variable {call : Call WordMachine}

theorem steps_result (call : Call WordMachine) :
    call.result.steps =
      if call.loads then 0 else call.machine.steps + if call.executes then 1 else 0 := by
  obtain ⟨command, machine⟩ := call
  cases command with
  | load image =>
    change (Engine.load machine image).2.steps =
      if (Engine.load machine image).1.isOk then 0 else machine.steps + 0
    cases answer : (Engine.load machine image).1 with
    | ok extent =>
      rw [wordMachine_load_snd answer]
      rfl
    | error fault =>
      rw [wordMachine_failedLoadKeeps machine image fault answer]
      exact (UInt64.add_zero _).symm
  | advance =>
    change (Engine.advance machine).2.steps =
      machine.steps + if (Engine.advance machine).1.isOk then 1 else 0
    cases answer : (Engine.advance machine).1 with
    | ok _ => exact steps_advance answer
    | error fault =>
      rw [advance_of_nextFault? (nextFault?_eq_some_iff.2 answer)]
      exact (UInt64.add_zero _).symm
  | writeRegister name value =>
    have keeps := (machine.put_keeps (.register name) value).2.2
    exact keeps.trans (UInt64.add_zero _).symm
  | writeMemory | readRegister | readMemory => exact (UInt64.add_zero _).symm

theorem obey?_arrays (proper : call.Proper) :
    call.machine.arrays.obey? call.command = some call.result.arrays := by
  obtain ⟨command, machine⟩ := call
  cases command with
  | load image =>
    rw [ArrayMachine.obey?, load?_arrays]
    rfl
  | advance =>
    rw [ArrayMachine.obey?, advance?_arrays]
    rfl
  | writeRegister name value =>
    have present : (Cell.register name).Exists := isSome_registerIndex?_iff.1 proper
    exact write?_arrays present value
  | writeMemory addr value =>
    have present : (Cell.memory addr).Exists := proper
    exact write?_arrays present value
  | readRegister name =>
    have present : (Cell.register name).Exists := isSome_registerIndex?_iff.1 proper
    rw [ArrayMachine.obey?, read?_arrays present]
    rfl
  | readMemory addr =>
    have present : (Cell.memory addr).Exists := proper
    rw [ArrayMachine.obey?, read?_arrays present]
    rfl

theorem pc_lt_of_executes (executes : call.executes = true) : call.machine.pc.toNat < 64 := by
  obtain ⟨command, machine⟩ := call
  cases command with
  | advance =>
    rw [executes_advance] at executes
    cases answer : (Engine.advance machine).1 with
    | ok _ => exact pc_lt_of_executed answer
    | error fault =>
      rw [answer] at executes
      cases executes
  | load | writeRegister | writeMemory | readRegister | readMemory => cases executes

end Call

namespace WordMachine

/-- The invariant of a session. Plain arrays could have been asked for all of it and would have come
to the same machine. -/
structure InBounds (recorded : Recorded WordMachine) : Prop where
  replayed : ArrayMachine.idle.obeyAll? (recorded.calls.map Call.command) =
    some recorded.machine.arrays
  near : recorded.machine.pc.toNat ≤ reach
  nearBefore : ∀ call ∈ recorded.calls, call.machine.pc.toNat ≤ reach
  counted : recorded.machine.steps.toNat = Call.executedCount recorded.calls % UInt64.size

theorem inBounds_start : InBounds ⟨start [], []⟩ where
  replayed := congrArg some arrays_start_nil.symm
  near := Nat.zero_le _
  nearBefore := nofun
  counted := rfl

theorem keptByCalls_inBounds : Recorded.KeptByCalls InBounds := by
  intro recorded command bounds proper
  exact {
    replayed := by
      rw [Recorded.note, List.map_append, List.map_singleton, ArrayMachine.obeyAll?_concat,
        bounds.replayed]
      exact Call.obey?_arrays proper
    near := keptInUse_pc_le_reach.result proper bounds.near
    nearBefore := by
      rw [Recorded.note, List.forall_mem_append]
      exact ⟨bounds.nearBefore, List.forall_mem_singleton.2 bounds.near⟩
    counted := by
      rw [Recorded.note, Call.executedCount_concat, Call.steps_result]
      split_ifs
      · rfl
      · rw [UInt64.toNat_add, bounds.counted, UInt64.toNat_one]
        exact Nat.mod_add_mod _ _ _
      · rw [UInt64.add_zero]
        exact bounds.counted }

end WordMachine

namespace Debugger

theorem inBounds_performAll (config : Config) (operations : List Operation) :
    let start := ofEngine (WordMachine.start []) config
    InBounds ⟨(start.performAll operations).engine, start.asksOf operations⟩ := by
  intro start
  have kept : InBounds (start.recording.performAllNoting operations).engine :=
    keptByCalls_inBounds.performAllNoting inBounds_start operations
  rw [show start = start.recording.plain from rfl, ← plain_performAllNoting]
  exact kept

/-- As long as no program is loaded no instruction is executed. -/
theorem executedCount_asksOf_of_unloaded (config : Config) (operations : List Operation)
    (unloaded : ∀ call ∈ (ofEngine (WordMachine.start []) config).asksOf operations,
      call.loads = false) :
    Call.executedCount ((ofEngine (WordMachine.start []) config).asksOf operations) = 0 := by
  have kept := (keepsContract_ofEngine (WordMachine.start []) config).performAllNoting operations
  rw [Call.executedCount, List.countP_eq_zero]
  intro call since
  have listed := (List.rtakeWhile_suffix _ _).mem since
  obtain ⟨n, found⟩ := List.getElem?_of_mem listed
  obtain ⟨command, machine⟩ := call
  cases command with
  | advance =>
    obtain ⟨earlier, before, loads⟩ := kept.loadedFirst n _ found rfl
    rw [unloaded earlier (List.mem_of_mem_take before)] at loads
    cases loads
  | load | writeRegister | writeMemory | readRegister | readMemory => exact Bool.false_ne_true

/-- The machines in front of the calls and the one in the end are all that there have been, and the
reads are calls as well. Where plain arrays have an answer, no access missed and no address was left
behind. The last part compares sessions that differ in edits of breakpoints out of reach only,
wherever these stand; a label never leads there. -/
theorem machine_stays_in_bounds (config : Config) (operations : List Operation) :
    let start := ofEngine (WordMachine.start []) config
    let calls := start.asksOf operations
    let d := start.performAll operations
    (∀ machine ∈ calls.map Call.machine ++ [d.engine],
      machine.arrays.memory.size = 64 ∧ machine.pc.toNat ≤ 0xFFFF) ∧
    (∀ call ∈ calls, call.executes = true →
      call.machine.pc.toNat < 64 ∧ (call.machine.pc + 1).toNat = call.machine.pc.toNat + 1) ∧
    ArrayMachine.idle.obeyAll? (calls.map Call.command) = some d.engine.arrays ∧
    (∀ operation : Operation, d.performThrough arrayReads operation = some (d.perform operation)) ∧
    (Call.executedCount calls < UInt64.size → d.engine.steps.toNat = Call.executedCount calls) ∧
    ((∀ call ∈ calls, call.loads = false) → d.engine.steps = 0) ∧
    (∀ operation : Operation, operation.kind = .executes →
      ∀ entry ∈ Trace.flatten (d.perform operation).trace,
        ∀ addr, entry.subject = .inr (.breakpointHit addr) → addr.toNat ≤ 0xFFFF) ∧
    (∀ label addr, d.symbols.resolve label = some addr → addr.toNat ≤ 0xFFFF) ∧
    ∀ others : List Operation,
      others.filter (!·.editsOutOfReach) = operations.filter (!·.editsOutOfReach) →
        start.executions others = start.executions operations ∧
          d.SameInReach (start.performAll others) := by
  intro start calls d
  have bounds : InBounds ⟨d.engine, calls⟩ := inBounds_performAll config operations
  refine ⟨?_, ?_, bounds.replayed, performThrough_of_answers arrayReads_answersInUse d,
    ?_, ?_, ?_, ?_, ?_⟩
  · intro machine listed
    refine ⟨machine.memory.size_toArray, ?_⟩
    rcases List.mem_append.1 listed with before | last
    · obtain ⟨call, made, rfl⟩ := List.mem_map.1 before
      exact bounds.nearBefore call made
    · rw [List.mem_singleton.1 last]
      exact bounds.near
  · intro call _ executes
    have within := Call.pc_lt_of_executes executes
    exact ⟨within, toNat_add_one_of_lt within⟩
  · intro fits
    exact bounds.counted.trans (Nat.mod_eq_of_lt fits)
  · intro unloaded
    have counted := bounds.counted
    rw [executedCount_asksOf_of_unloaded config operations unloaded] at counted
    exact UInt64.toNat_inj.1 counted
  · intro operation kind entry listed addr hit
    rw [eq_of_reported_hit kind listed hit]
    exact keptInUse_pc_le_reach.perform bounds.near operation
  · intro label addr resolved
    have within := lt_capacity_of_inProgram
      (inProgram_performAll (WordMachine.start []) config operations) resolved
    exact Nat.le_of_lt (Nat.lt_trans within (by decide))
  · intro others same
    have startsNear : start.engine.pc.toNat ≤ reach := Nat.zero_le _
    exact executions_eq_of_filter_eq startsNear same

/-- A program that counts once and jumps as far as it can, to a breakpoint. There is another
breakpoint on its way. -/
theorem jumps_stay_in_reach :
    let start := ofEngine (WordMachine.start []) ⟨5⟩
    let image := encode [0x02000000, 0x0300FFFF]
    let symbols := (SymbolTable.ofPairs [("leap", 1)]).value
    let operations : List Operation :=
      [.loadImage image symbols, .setBreakpoint (.label "leap"), .setBreakpoint (.address 0xFFFF),
        .step, .readMemory 1]
    let others : List Operation :=
      [.setBreakpoint (.address 0x10000), .loadImage image symbols, .setBreakpoint (.label "leap"),
        .setBreakpoint (.address 0x10000), .setBreakpoint (.address 0xFFFF),
        .removeBreakpoint (.address 0xFFFFFFFF), .step, .readMemory 1]
    let d := start.performAll operations
    (∃ call ∈ start.asksOf operations, call.executes = true ∧ call.machine.pc.toNat < 64) ∧
      (∃ call ∈ start.asksOf operations, call.command = .readMemory 1) ∧
      d.performThrough arrayReads (.readMemory 64) = some (d.perform (.readMemory 64)) ∧
      d.symbols.resolve "leap" = some d.pc ∧ d.pc.toNat ≤ 0xFFFF ∧
      d.status = .breakpointHit ∧ d.engine.steps.toNat = 1 ∧
      (start.performAll [.step]).engine.steps = 0 ∧
      (Trace.flatten (d.perform .run).trace).map Entry.subject =
        [.inl .run, .inl (.step 1), .inr (.breakpointHit 0xFFFF)] ∧
      (∀ entry ∈ Trace.flatten (d.perform .run).trace,
        entry.subject ≠ .inr (.breakpointHit 0x10000)) ∧
      start.executions others = start.executions operations := by
  intro start image symbols operations others d
  obtain ⟨-, moves, -, reads, counts, -, hits, labels, edits⟩ :=
    machine_stays_in_bounds ⟨5⟩ operations
  obtain ⟨-, -, -, -, -, idles, -⟩ := machine_stays_in_bounds ⟨5⟩ [.step]
  have executed : ∃ call ∈ start.asksOf operations, call.executes = true := by decide +kernel
  have few : Call.executedCount (start.asksOf operations) < UInt64.size := by decide +kernel
  have unloaded : ∀ call ∈ start.asksOf [.step], call.loads = false := by decide +kernel
  have same : others.filter (!·.editsOutOfReach) = operations.filter (!·.editsOutOfReach) := rfl
  have resolved : d.symbols.resolve "leap" = some d.pc := by decide +kernel
  obtain ⟨call, made, executes⟩ := executed
  refine ⟨⟨call, made, executes, (moves call made executes).1⟩, by decide +kernel,
    reads (.readMemory 64), resolved, labels _ _ resolved, by decide +kernel,
    (counts few).trans (by decide +kernel), idles unloaded, by decide +kernel, ?_,
    (edits others same).1⟩
  intro entry listed hit
  have near := hits .run rfl entry listed 0x10000 hit
  exact absurd near (by decide)

end Debugger
end Stepper
