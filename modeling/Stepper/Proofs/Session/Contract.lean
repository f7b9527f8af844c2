import Stepper.Proofs.Session.Alike
import Stepper.Proofs.Session.History
import Stepper.Proofs.Session.Noting
import Stepper.Proofs.Session.Resuming

/-!
A debugger keeps to the contract of its machine. An operation asks for nothing, for a write, for a
load or for some attempts, and each time the debugger has made sure that the machine of that moment
is meant for it. What is turned away is turned away before the machine is touched.
-/
namespace Stepper
open Machine

section Calls

variable {σ ε : Type} [Engine σ ε]

/-- No instruction is attempted before some program is loaded. -/
def Call.LoadedFirst (calls : List (Call σ)) : Prop :=
  ∀ n call, calls[n]? = some call → call.command = .advance →
    ∃ earlier ∈ calls.take n, earlier.loads = true

theorem Call.LoadedFirst.append {calls more : List (Call σ)} (before : LoadedFirst calls)
    (allowed : (∃ call ∈ calls, call.loads = true) ∨ ∀ call ∈ more, call.command ≠ .advance) :
    LoadedFirst (calls ++ more) := by
  intro n call listed attempt
  rcases Nat.lt_or_ge n calls.length with within | beyond
  · rw [List.getElem?_append_left within] at listed
    rw [List.take_append_of_le_length within.le]
    exact before n call listed attempt
  · rw [List.getElem?_append_right beyond] at listed
    rcases allowed with ⟨earlier, found, loads⟩ | passive
    · refine ⟨earlier, ?_, loads⟩
      rw [List.take_append, List.take_of_length_le beyond]
      exact List.mem_append_left _ found
    · exact absurd attempt (passive call (List.mem_of_getElem? listed))

namespace Recorded

theorem getElem?_attempts_eq_some_iff {machine : σ} {m n : Nat} {call : Call σ} :
    (attempts machine m)[n]? = some call ↔ n < m ∧ call = ⟨.advance, after machine n⟩ := by
  unfold attempts
  rw [List.getElem?_map]
  by_cases within : n < m <;> simp [within, eq_comm]

theorem proper_of_mem_attempts {machine : σ} {n : Nat} {call : Call σ}
    (listed : call ∈ attempts machine n) : call.Proper := by
  obtain ⟨i, _, rfl⟩ := List.mem_map.1 listed
  trivial

end Recorded
end Calls

namespace Debugger

variable {σ ε : Type} [Engine σ ε]

/-- What an operation may ask of the machine, and what else may be said then of its result and of
the debugger behind it. -/
inductive Asks (d : Debugger (Recorded σ)) (operation : Operation)
    (result : Except (Error ε) Answer) (next : Debugger (Recorded σ)) : Prop where
  | nothing (engine : next.engine = d.engine) (status : next.status = d.status)
  | write {command : Command} {machine : σ}
    (proper : Call.Proper ⟨command, d.engine.machine⟩) (passive : command ≠ .advance)
    (engine : next.engine = d.engine.note command machine) (status : next.status = d.status)
    (done : result.isOk = true)
  | failedLoad {image : Image} {machine : σ} {fault : ε} (about : operation.image? = some image)
    (proper : Call.Proper ⟨.load image, d.engine.machine⟩)
    (engine : next.engine = d.engine.note (.load image) machine) (status : next.status = d.status)
    (failed : result = .error (.load (.image fault)))
  | load {image : Image} {machine : σ} (proper : Call.Proper ⟨.load image, d.engine.machine⟩)
    (engine : next.engine = d.engine.note (.load image) machine)
    (loads : Call.loads ⟨.load image, d.engine.machine⟩ = true) (done : result.isOk = true)
  | attempts {n : Nat} (awake : d.status ≠ .halted)
    (quiet : ∀ i < n, Quiet d.breakpoints d.engine i) (engine : next.engine = after d.engine n)
    (faulted : ∀ cause, result = .error cause → ∃ fault, cause = .execution fault)

section Asking

variable {d : Debugger (Recorded σ)} {operation : Operation}

theorem ImageLoad.asks {image : Image} {symbols : SymbolTable}
    {outcome : Outcome (Recorded σ) ε Unit} (about : operation.image? = some image)
    (ends : ImageLoad d image symbols outcome) :
    d.Asks operation (outcome.result.map fun _ => .done) outcome.debugger := by
  cases ends with
  | rejected => exact .nothing rfl rfl
  | strayed => exact .nothing rfl rfl
  | failed fits failed =>
    obtain ⟨extent, accepted, _⟩ := fits
    exact .failedLoad about ⟨extent, accepted⟩ rfl rfl rfl
  | loaded fits loaded =>
    obtain ⟨extent, accepted, _⟩ := fits
    exact .load ⟨extent, accepted⟩ rfl (congrArg Except.isOk loaded) rfl

theorem FileLoad.asks {program symbolFile : File} {outcome : Outcome (Recorded σ) ε Unit}
    (ends : FileLoad d program symbolFile outcome) :
    d.Asks (.load program symbolFile) (outcome.result.map fun _ => .done) outcome.debugger := by
  cases ends with
  | noProgram => exact .nothing rfl rfl
  | noSymbols => exact .nothing rfl rfl
  | @both image symbols read =>
    have about : (Operation.load program symbolFile).image? = some image :=
      congrArg Except.toOption read
    have asked := (loadImage_cases d image symbols).asks about
    exact asked

theorem step_asks :
    let outcome : Outcome (Recorded σ) ε Status := d.step
    d.Asks .step (outcome.result.map .status) outcome.debugger := by
  intro outcome
  have quiet : ∀ i < 1, Quiet d.breakpoints d.engine i := fun i lt j before => by omega
  by_cases asleep : d.status = .halted
  · have same : outcome.debugger = d := by simp [outcome, step, asleep]
    exact .nothing (by rw [same]) (by rw [same])
  · cases answer : (Engine.advance d.engine).1 with
    | error fault =>
      have stepped : outcome = _ := step_of_faulted asleep answer
      rw [stepped]
      exact .attempts asleep quiet rfl fun cause refused => ⟨fault, by cases refused; rfl⟩
    | ok _ =>
      have stepped : outcome = _ := step_of_executed asleep answer
      rw [stepped]
      exact .attempts asleep quiet rfl fun cause refused => by cases refused

theorem run_asks :
    let outcome : Outcome (Recorded σ) ε Status := d.run
    d.Asks .run (outcome.result.map .status) outcome.debugger := by
  intro outcome
  by_cases asleep : d.status = .halted
  · have same : outcome = _ := run_of_halted asleep
    rw [same]
    exact .nothing rfl rfl
  · rcases quiet_or_first d.breakpoints d.engine d.config.runStepLimit.toNat with
      quiet | ⟨n, within, quiet, stop, ends⟩
    · have ran : outcome = _ := run_of_quiet asleep quiet
      rw [ran]
      exact .attempts asleep (fun i lt => quiet.mono lt.le) rfl
        fun cause refused => by cases refused
    · have ran : outcome = _ := run_of_first asleep within quiet ends
      rw [ran]
      refine .attempts asleep (fun i lt => quiet.mono (Nat.le_of_lt_succ lt)) rfl ?_
      intro cause refused
      cases stop with
      | fault fault => exact ⟨fault, by cases refused; rfl⟩
      | halt | breakpoint => cases refused

theorem perform_asks (d : Debugger (Recorded σ)) (operation : Operation) :
    let outcome : Outcome (Recorded σ) ε Answer := d.perform operation
    d.Asks operation outcome.result outcome.debugger := by
  cases operation with
  | load program symbolFile => exact (load_cases d program symbolFile).asks
  | loadImage image symbols => exact (loadImage_cases d image symbols).asks rfl
  | step => exact step_asks
  | run => exact run_asks
  | writeRegister name value =>
    rw [perform, writeRegister, checkRegister]
    by_cases known : Engine.hasRegister d.engine name = true
    · rw [if_pos known]
      have proper : Call.Proper ⟨.writeRegister name value, d.engine.machine⟩ := known
      exact .write proper Command.noConfusion rfl rfl rfl
    · rw [if_neg known]
      exact .nothing rfl rfl
  | writeMemory addr value =>
    rw [perform, writeMemory, checkMemory]
    by_cases within : addr < Engine.memorySize d.engine
    · rw [if_pos within]
      have proper : Call.Proper ⟨.writeMemory addr value, d.engine.machine⟩ := within
      exact .write proper Command.noConfusion rfl rfl rfl
    · rw [if_neg within]
      exact .nothing rfl rfl
  | setBreakpoint location =>
    rw [perform, setBreakpoint]
    cases d.locate location <;> exact .nothing rfl rfl
  | removeBreakpoint location =>
    rw [perform, removeBreakpoint]
    cases d.locate location <;> exact .nothing rfl rfl
  | resolve | isBreakpoint | clearBreakpoints | readRegister | readMemory | symbolize | symbols
  | config => exact .nothing rfl rfl

/-- The invariant of a session: its calls are as they should be, and a debugger that is not halted
may go on to make attempts. -/
structure KeepsContract (d : Debugger (Recorded σ)) : Prop where
  proper : ∀ call ∈ d.engine.calls, call.Proper
  loadedFirst : Call.LoadedFirst d.engine.calls
  loaded : d.status ≠ .halted → ∃ call ∈ d.engine.calls, call.loads = true

theorem keepsContract_ofEngine (engine : σ) (config : Config) :
    KeepsContract (ofEngine engine config).recording where
  proper := by
    intro call listed
    cases listed
  loadedFirst := by
    intro n call listed
    cases listed
  loaded awake := absurd rfl awake

section Next

variable {next : Debugger (Recorded σ)}

theorem KeepsContract.same (keeps : KeepsContract d) (engine : next.engine = d.engine)
    (status : next.status = d.status) : KeepsContract next where
  proper := by
    rw [engine]
    exact keeps.proper
  loadedFirst := by
    rw [engine]
    exact keeps.loadedFirst
  loaded := by
    rw [engine, status]
    exact keeps.loaded

theorem KeepsContract.append {more : List (Call σ)} (keeps : KeepsContract d)
    (calls : next.engine.calls = d.engine.calls ++ more) (proper : ∀ call ∈ more, call.Proper)
    (allowed : d.status ≠ .halted ∨ ∀ call ∈ more, call.command ≠ .advance)
    (loaded : next.status = d.status ∨ d.status ≠ .halted ∨ ∃ call ∈ more, call.loads = true) :
    KeepsContract next where
  proper := by
    rw [calls]
    exact List.forall_mem_append.2 ⟨keeps.proper, proper⟩
  loadedFirst := by
    rw [calls]
    exact keeps.loadedFirst.append (allowed.imp_left keeps.loaded)
  loaded := by
    intro awake
    rw [calls]
    rcases loaded with status | before | ⟨call, listed, loads⟩
    · obtain ⟨call, listed, loads⟩ := keeps.loaded (status ▸ awake)
      exact ⟨call, List.mem_append_left _ listed, loads⟩
    · obtain ⟨call, listed, loads⟩ := keeps.loaded before
      exact ⟨call, List.mem_append_left _ listed, loads⟩
    · exact ⟨call, List.mem_append_right _ listed, loads⟩

theorem KeepsContract.note {command : Command} {machine : σ} (keeps : KeepsContract d)
    (engine : next.engine = d.engine.note command machine)
    (proper : Call.Proper ⟨command, d.engine.machine⟩) (passive : command ≠ .advance)
    (loaded : next.status = d.status ∨ Call.loads ⟨command, d.engine.machine⟩ = true) :
    KeepsContract next := by
  apply keeps.append (congrArg Recorded.calls engine)
  · simpa using proper
  · right
    simpa using passive
  · apply loaded.imp_right
    intro loads
    right
    simpa using loads

end Next

theorem KeepsContract.perform (keeps : KeepsContract d) (operation : Operation) :
    KeepsContract (d.perform operation : Outcome (Recorded σ) ε Answer).debugger := by
  cases perform_asks d operation with
  | nothing engine status => exact keeps.same engine status
  | write proper passive engine status => exact keeps.note engine proper passive (.inl status)
  | failedLoad _ proper engine status =>
    exact keeps.note engine proper Command.noConfusion (.inl status)
  | load proper engine loads => exact keeps.note engine proper Command.noConfusion (.inr loads)
  | attempts awake _ engine =>
    rw [Recorded.after_eq] at engine
    apply keeps.append (congrArg Recorded.calls engine)
    · exact fun call listed => Recorded.proper_of_mem_attempts listed
    · exact .inl awake
    · exact .inr (.inl awake)

theorem KeepsContract.performNoting (keeps : KeepsContract d) (operation : Operation) :
    KeepsContract (d.performNoting operation) := by
  rcases performNoting_cases d operation with silent | ⟨command, notes⟩
  · rw [silent]
    exact keeps.perform operation
  · rw [notes.noted]
    exact keeps.note rfl notes.proper notes.passive (.inl rfl)

theorem KeepsContract.performAllNoting (keeps : KeepsContract d) (operations : List Operation) :
    KeepsContract (d.performAllNoting operations) := by
  induction operations generalizing d with
  | nil => exact keeps
  | cons operation rest ih => exact ih (keeps.performNoting operation)

end Asking

/-- What a run does quietly can be done by single steps. -/
theorem performAll_steps_of_quiet {d : Debugger σ} {n : Nat} (awake : d.status ≠ .halted)
    (quiet : Quiet d.breakpoints d.engine n) :
    d.performAll (List.replicate n .step) = d.quietly n := by
  induction n with
  | zero => rfl
  | succ n ih =>
    have stepped := step_of_not_stops (quietly_ne_halted awake n) (quiet n (Nat.lt_succ_self n))
    rw [List.replicate_succ', performAll_append, ih (quiet.mono (Nat.le_succ n)), performAll_cons,
      performAll_nil, perform, Outcome.map, stepped, quietly_quietly]

theorem awake_at_attempt {d : Debugger σ} {operation : Operation} {n : Nat} {call : Call σ}
    (listed : (d.asksOf [operation])[n]? = some call) (attempt : call.command = .advance) :
    let now := d.performAll (List.replicate n .step)
    now.engine = call.machine ∧ now.status ≠ .halted := by
  change (d.recording.performNoting operation).engine.calls[n]? = some call at listed
  rcases performNoting_cases d.recording operation with silent | ⟨command, notes⟩
  · rw [silent] at listed
    cases perform_asks d.recording operation with
    | nothing engine =>
      rw [engine] at listed
      cases listed
    | write _ passive engine =>
      rw [engine] at listed
      cases List.mem_singleton.1 (List.mem_of_getElem? listed)
      exact absurd attempt passive
    | failedLoad _ _ engine | load _ engine =>
      rw [engine] at listed
      cases List.mem_singleton.1 (List.mem_of_getElem? listed)
      cases attempt
    | attempts awake quiet engine =>
      rw [engine, Recorded.after_eq] at listed
      obtain ⟨before, rfl⟩ := Recorded.getElem?_attempts_eq_some_iff.1 listed
      have quietBefore : Quiet d.breakpoints d.engine n := Recorded.quiet_iff.1 (quiet n before)
      rw [performAll_steps_of_quiet (d := d) awake quietBefore]
      exact ⟨rfl, quietly_ne_halted awake n⟩
  · rw [notes.noted] at listed
    cases List.mem_singleton.1 (List.mem_of_getElem? listed)
    exact absurd attempt notes.passive

/-- The answers of operations that are turned away before the machine is asked to do anything. -/
inductive Refusal (d : Debugger σ) (operation : Operation) : Error ε → Prop where
  | unknownSymbol (label : String) : Refusal d operation (.unknownSymbol label)
  | halted : Refusal d operation .halted
  | invalidRegister (name : String) : Refusal d operation (.invalidRegister name)
  | outOfBounds (addr : Address) : Refusal d operation (.outOfBounds addr)
  | symbolOutOfRange (label : String) (addr : Address) :
    Refusal d operation (.load (.symbolOutOfRange label addr))
  | rejectedImage {image : Image} {fault : ε} (about : operation.image? = some image)
    (rejected : Engine.extent d.engine image = .error fault) :
    Refusal d operation (.load (.image fault))

theorem asksOf_of_refused {d : Debugger σ} {operation : Operation} {cause : Error ε}
    (result : (d.perform operation : Outcome σ ε Answer).result = .error cause)
    (refusal : d.Refusal operation cause) : d.asksOf [operation] = [] := by
  rw [perform_eq_plain] at result
  change (d.recording.perform operation : Outcome (Recorded σ) ε Answer).result = _ at result
  change (d.recording.performNoting operation).engine.calls = []
  rcases performNoting_cases d.recording operation with silent | ⟨command, notes⟩
  · rw [silent]
    cases perform_asks d.recording operation with
    | nothing engine => exact congrArg Recorded.calls engine
    | write _ _ _ _ done | load _ _ _ done =>
      rw [result] at done
      cases done
    | failedLoad about proper _ _ failed =>
      rw [result] at failed
      cases failed
      cases refusal with
      | rejectedImage same rejected =>
        rw [about, Option.some.injEq] at same
        subst same
        obtain ⟨extent, accepted⟩ := proper
        have accepted : Engine.extent d.engine _ = .ok extent := accepted
        rw [rejected] at accepted
        cases accepted
    | attempts _ _ _ faulted =>
      obtain ⟨fault, rfl⟩ := faulted cause result
      cases refusal
  · have done := notes.done
    rw [result] at done
    cases done

/-- The first part is about all calls of a session in their order. The second one tells how reads
are made, and lets one outside of its registers and its memory break the machine; the third one lets
the machine do anything where it is not used as it is meant to be. In the last part, `now` is the
debugger in front of an attempt, because a run is as many steps as it makes attempts. -/
theorem contract_is_kept :
    (∀ {σ ε : Type} [Engine σ ε] (engine : σ) (config : Config) (operations : List Operation),
      let calls := (ofEngine engine config).asksOf operations
      (∀ call ∈ calls, call.Proper) ∧ Call.LoadedFirst calls) ∧
    (∀ {σ ε : Type} [Engine σ ε] (d : Debugger σ) (operation : Operation),
      Id.run (d.performThrough Engine.reads operation) =
          (d.perform operation : Outcome σ ε Answer) ∧
        ∀ reads : Reads σ Option, Machine.AnswersInUse reads →
          d.performThrough reads operation = some (d.perform operation : Outcome σ ε Answer)) ∧
    (∀ {σ ε : Type} (proper misused : Engine σ ε) (engine : σ) (config : Config)
      (operations : List Operation),
      @outcomes σ ε (unlessMisused proper misused) (ofEngine engine config) operations =
        @outcomes σ ε proper (ofEngine engine config) operations) ∧
    (∀ {σ ε : Type} [Engine σ ε] (d : Debugger σ) (operation : Operation),
      let calls := d.asksOf [operation]
      (∀ n call, calls[n]? = some call → call.command = .advance →
        let now := d.performAll (List.replicate n .step)
        now.engine = call.machine ∧ now.status ≠ .halted) ∧
      (∀ cause, (d.perform operation : Outcome σ ε Answer).result = .error cause →
        d.Refusal operation cause → calls = [])) := by
  refine ⟨?_, ?_, ?_, ?_⟩
  · intro σ ε _ engine config operations calls
    have kept := (keepsContract_ofEngine engine config).performAllNoting operations
    exact ⟨kept.proper, kept.loadedFirst⟩
  · intro σ ε _ d operation
    refine ⟨performThrough_reads d operation, fun reads answers => ?_⟩
    exact performThrough_of_answers answers d operation
  · intro σ ε proper misused engine config operations
    exact (outcomes_alike (alikeInUse_unlessMisused proper misused) _ operations).symm
  · intro σ ε _ d operation calls
    refine ⟨fun n call listed attempt => ?_, fun cause result refusal => ?_⟩
    · exact awake_at_attempt listed attempt
    · exact asksOf_of_refused result refusal

/-- There is nothing to step before the load, and neither such a word of memory nor such a register.
What there is, is read and written, and the run ends at the second fault. -/
theorem program_is_used_within_contract :
    let start : Debugger WordMachine := ofEngine (.start []) ⟨5⟩
    let operations : List Operation :=
      [.step, .readMemory 64, .loadImage [0, 0, 0, 1] .empty, .readMemory 64, .readMemory 0,
        .writeRegister "pc" 0, .readRegister "pc", .readRegister "r3", .writeMemory 1 9, .run]
    let calls := start.asksOf operations
    calls.map Call.command =
        [.load [0, 0, 0, 1], .readMemory 0, .readRegister "r3", .writeMemory 1 9, .advance,
          .advance] ∧
      (∀ call ∈ calls, call.Proper) ∧ Call.LoadedFirst calls ∧
      (∀ operation : Operation, start.performThrough WordMachine.reads? operation =
        some (start.perform operation)) ∧
      start.asksOf [.readMemory 64] = [] := by
  intro start operations calls
  obtain ⟨session, unbroken, -, single⟩ := contract_is_kept
  obtain ⟨proper, loadedFirst⟩ := session (WordMachine.start []) ⟨5⟩ operations
  have beyond : (start.perform (.readMemory 64)).result = .error (.outOfBounds 64) := rfl
  refine ⟨by decide +kernel, proper, loadedFirst, ?_, ?_⟩
  · intro operation
    exact (unbroken start operation).2 WordMachine.reads? wordMachine_answersInUse
  · exact (single start (.readMemory 64)).2 _ beyond (.outOfBounds 64)

end Debugger
end Stepper
