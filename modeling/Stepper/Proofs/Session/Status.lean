import Stepper.Proofs.Session.History

/-!
The status of a debugger repeats what its machine knows, so the two could disagree. They never do:
the last transition of the session decides the status, and only a loaded machine that has not
halted is ever asked to execute an instruction.
-/
namespace Stepper

open Machine Moment

variable {σ ε : Type} [Engine σ ε]

def Moment.statusBehind (moment : Moment σ) : Status :=
  if Engine.isHalted moment.call.result then .halted
  else if moment.call.executes && moment.breakpoints.contains (Engine.pc moment.call.result) then
    .breakpointHit
  else .ready

theorem Moment.statusBehind_eq_halted_iff {moment : Moment σ} :
    moment.statusBehind = .halted ↔ Engine.isHalted moment.call.result = true := by
  unfold statusBehind
  split
  · next halted => simp [halted]
  · next running => split <;> simp [running]

theorem Moment.statusBehind_eq_breakpointHit_iff {moment : Moment σ} :
    moment.statusBehind = .breakpointHit ↔
      moment.call.executes = true ∧ Engine.isHalted moment.call.result = false ∧
        moment.breakpoints.contains (Engine.pc moment.call.result) = true := by
  unfold statusBehind
  split
  · next halted => simp [halted]
  · next running =>
    rw [Bool.not_eq_true] at running
    split
    · next paused =>
      rw [Bool.and_eq_true] at paused
      simp [running, paused]
    · next unpaused =>
      rw [Bool.and_eq_true, not_and] at unpaused
      simpa [running] using unpaused

/-- Every attempt to execute an instruction comes behind a load and finds the machine awake. -/
def Moment.AttemptsAwake (history : List (Moment σ)) : Prop :=
  ∀ n moment, history[n]? = some moment → moment.call.command = .advance →
    (∃ earlier ∈ history.take n, earlier.call.loads = true) ∧
      Engine.isHalted moment.call.machine = false

theorem Moment.AttemptsAwake.concat {history : List (Moment σ)} {moment : Moment σ}
    (before : AttemptsAwake history)
    (last : moment.call.command = .advance →
      (∃ earlier ∈ history, earlier.call.loads = true) ∧
        Engine.isHalted moment.call.machine = false) :
    AttemptsAwake (history ++ [moment]) := by
  intro n other listed attempt
  rcases Nat.lt_trichotomy n history.length with within | rfl | beyond
  · rw [List.getElem?_append_left within] at listed
    rw [List.take_append_of_le_length within.le]
    exact before n other listed attempt
  · rw [List.getElem?_concat_length, Option.some.injEq] at listed
    subst listed
    rw [List.take_left]
    exact last attempt
  · rw [List.getElem?_eq_none (by simp; omega)] at listed
    cases listed

namespace Debugger

/-- The invariant of a session: the debugger is as the history so far says. -/
structure Follows (d : Debugger σ) (history : List (Moment σ)) : Prop where
  status : d.status = (lastTransition history).elim .halted statusBehind
  flag : ∀ moment, lastTransition history = some moment →
    Engine.isHalted d.engine = Engine.isHalted moment.call.result
  loaded : ∀ moment, lastTransition history = some moment →
    ∃ earlier ∈ history, earlier.call.loads = true
  awake : AttemptsAwake history

variable {d next : Debugger σ} {history : List (Moment σ)} {moment : Moment σ}

theorem follows_ofEngine (engine : σ) (config : Config) :
    (ofEngine engine config).Follows [] where
  status := rfl
  flag := by
    intro moment last
    cases last
  loaded := by
    intro moment last
    cases last
  awake := by
    intro n moment listed
    cases listed

theorem Follows.may_advance (follows : d.Follows history) (awake : d.status ≠ .halted) :
    (∃ earlier ∈ history, earlier.call.loads = true) ∧ Engine.isHalted d.engine = false := by
  have status := follows.status
  cases last : lastTransition history with
  | none =>
    rw [last] at status
    exact absurd status awake
  | some moment =>
    refine ⟨follows.loaded moment last, ?_⟩
    rw [follows.flag moment last, ← Bool.not_eq_true]
    intro halted
    apply awake
    rw [status, last, Option.elim_some, statusBehind, if_pos halted]

theorem Follows.same (follows : d.Follows history) (engine : next.engine = d.engine)
    (status : next.status = d.status) : next.Follows history where
  status := status.trans follows.status
  flag := by
    rw [engine]
    exact follows.flag
  loaded := follows.loaded
  awake := follows.awake

theorem Follows.unmoved (follows : d.Follows history) (stays : moment.isTransition = false)
    (status : next.status = d.status)
    (flag : Engine.isHalted next.engine = Engine.isHalted d.engine)
    (attempt : moment.call.command = .advance →
      (∃ earlier ∈ history, earlier.call.loads = true) ∧
        Engine.isHalted moment.call.machine = false) : next.Follows (history ++ [moment]) := by
  have last : lastTransition (history ++ [moment]) = lastTransition history := by
    rw [lastTransition_concat, if_neg (by simp [stays])]
  refine ⟨?_, ?_, ?_, follows.awake.concat attempt⟩
  · rw [last, status, follows.status]
  · rw [last, flag]
    exact follows.flag
  · intro other before
    obtain ⟨earlier, listed, loads⟩ := follows.loaded other (last ▸ before)
    exact ⟨earlier, List.mem_append_left _ listed, loads⟩

theorem Follows.moved (follows : d.Follows history) (transits : moment.isTransition = true)
    (engine : next.engine = moment.call.result) (status : next.status = moment.statusBehind)
    (loaded : ∃ earlier ∈ history ++ [moment], earlier.call.loads = true)
    (attempt : moment.call.command = .advance →
      (∃ earlier ∈ history, earlier.call.loads = true) ∧
        Engine.isHalted moment.call.machine = false) : next.Follows (history ++ [moment]) := by
  have last : lastTransition (history ++ [moment]) = some moment := by
    rw [lastTransition_concat, if_pos transits]
  refine ⟨?_, ?_, ?_, follows.awake.concat attempt⟩
  · rw [last, status, Option.elim_some]
  · intro other same
    rw [last, Option.some.injEq] at same
    rw [engine, same]
  · exact fun _ _ => loaded

def attempt (d : Debugger σ) : Moment σ := ⟨⟨.advance, d.engine⟩, d.breakpoints⟩

theorem Follows.step (law : HaltsByTransition σ) (follows : d.Follows history)
    (awake : d.status ≠ .halted) :
    (d.step : Outcome σ ε Status).debugger.Follows (history ++ [d.attempt]) := by
  have may := follows.may_advance awake
  cases answer : (Engine.advance d.engine).1 with
  | error fault =>
    have stays : d.attempt.isTransition = false := by
      change (Engine.advance d.engine).1.isOk = false
      rw [answer]
      rfl
    rw [step_of_faulted awake answer]
    exact follows.unmoved stays rfl (law.advance _ _ answer) fun _ => may
  | ok executed =>
    have executes : d.attempt.call.executes = true := by
      rw [attempt, Call.executes_advance, answer]
      rfl
    have stood : (stand d.breakpoints (after d.engine 1)).1 = d.attempt.statusBehind := by
      unfold stand statusBehind
      rw [executes, Bool.true_and, show d.attempt.call.result = after d.engine 1 from rfl,
        show d.attempt.breakpoints = d.breakpoints from rfl]
      split
      · rfl
      · split
        · rfl
        · rfl
    rw [step_of_executed awake answer]
    obtain ⟨earlier, listed, loads⟩ := may.1
    refine follows.moved ?_ rfl stood ⟨earlier, List.mem_append_left _ listed, loads⟩ fun _ => may
    rw [isTransition, executes, Bool.or_true]

theorem Follows.quietly (law : HaltsByTransition σ) (follows : d.Follows history)
    (awake : d.status ≠ .halted) {n : Nat} (quiet : Quiet d.breakpoints d.engine n) :
    (d.quietly n).Follows
      (history ++ (Recorded.attempts d.engine n).map fun call => ⟨call, d.breakpoints⟩) := by
  induction n with
  | zero =>
    rw [Recorded.attempts_zero, List.map_nil, List.append_nil]
    exact follows
  | succ n ih =>
    -- A quiet step prolongs the history by the one attempt that it makes.
    have before := ih (quiet.mono (Nat.le_succ n))
    have stepped := before.step law (quietly_ne_halted awake n)
    rw [step_of_not_stops (quietly_ne_halted awake n) (quiet n (Nat.lt_succ_self n)),
      quietly_quietly] at stepped
    rw [Recorded.attempts_succ, List.map_append, ← List.append_assoc]
    exact stepped

def Keeps {α : Type} (d : Debugger σ) (outcome : Outcome (Recorded σ) ε α) : Prop :=
  ∀ history, d.Follows history →
    outcome.plain.debugger.Follows
      (history ++ outcome.calls.map fun call => ⟨call, d.breakpoints⟩)

/-- An operation that calls nothing and leaves the status alone keeps the invariant. -/
theorem keeps_of_silent {α : Type} {outcome : Outcome (Recorded σ) ε α}
    (engine : outcome.debugger.engine = ⟨d.engine, []⟩)
    (status : outcome.debugger.status = d.status) : d.Keeps outcome := by
  intro history follows
  unfold Outcome.calls
  rw [engine, List.map_nil, List.append_nil]
  exact follows.same (congrArg Recorded.machine engine) status

/-- So does one whose only call writes. -/
theorem keeps_of_write {α : Type} {outcome : Outcome (Recorded σ) ε α} {command : Command}
    {machine : σ} (engine : outcome.debugger.engine = ⟨machine, [⟨command, d.engine⟩]⟩)
    (status : outcome.debugger.status = d.status)
    (unloaded : (Call.mk command d.engine).loads = false) (unadvanced : command ≠ .advance)
    (flag : Engine.isHalted machine = Engine.isHalted d.engine) : d.Keeps outcome := by
  intro history follows
  have idle : (Call.mk command d.engine).executes = false := by
    unfold Call.executes
    split
    · next same => exact absurd same unadvanced
    · rfl
  unfold Outcome.calls
  rw [engine]
  refine follows.unmoved ?_ status ?_ fun attempt => absurd attempt unadvanced
  · rw [isTransition, unloaded, idle]
    rfl
  · rw [← flag]
    exact congrArg (fun recorded : Recorded σ => Engine.isHalted recorded.machine) engine

theorem step_keeps (law : HaltsByTransition σ) :
    d.Keeps (d.recording.step : Outcome (Recorded σ) ε Status) := by
  intro history follows
  rw [plain_step]
  by_cases asleep : d.status = .halted
  · rw [calls_step_of_halted asleep, List.map_nil, List.append_nil]
    unfold step
    rw [if_pos (show d.recording.plain.status = .halted from asleep)]
    exact follows
  · rw [calls_step_of_awake asleep]
    exact follows.step law asleep

theorem run_keeps (law : HaltsByTransition σ) :
    d.Keeps (d.recording.run : Outcome (Recorded σ) ε Status) := by
  intro history follows
  rw [plain_run]
  change (d.run : Outcome σ ε Status).debugger.Follows _
  by_cases asleep : d.status = .halted
  · rw [run_of_halted asleep, calls_run_of_halted asleep, List.map_nil, List.append_nil]
    exact follows
  · rcases quiet_or_first d.breakpoints d.engine d.config.runStepLimit.toNat with
      quiet | ⟨n, within, quiet, stop, ends⟩
    · rw [run_of_quiet asleep quiet, calls_run_of_quiet asleep quiet]
      exact follows.quietly law asleep quiet
    · -- The first stop is one more step behind the quiet ones.
      have before := follows.quietly law asleep quiet
      have stepped := before.step law (quietly_ne_halted asleep n)
      rw [step_of_ends (d := d.quietly n) (quietly_ne_halted asleep n) ends] at stepped
      rw [run_of_first asleep within quiet ends, calls_run_of_first asleep within quiet ends,
        Recorded.attempts_succ, List.map_append, ← List.append_assoc]
      exact stepped

theorem ImageLoad.keeps (law : HaltsByTransition σ) {image : Image} {symbols : SymbolTable}
    {outcome : Outcome (Recorded σ) ε Unit} (ends : ImageLoad d.recording image symbols outcome) :
    d.Keeps outcome := by
  have unasked : Command.load image ≠ .advance := Command.noConfusion
  cases ends with
  | rejected => exact keeps_of_silent rfl rfl
  | strayed => exact keeps_of_silent rfl rfl
  | failed fits failed =>
    have unloaded : (Call.mk (.load image) d.engine).loads = false := by
      rw [Call.loads_load]
      exact congrArg Except.isOk failed
    exact keeps_of_write rfl rfl unloaded unasked (law.load _ _ _ failed)
  | loaded fits loaded =>
    intro history follows
    have loads : (Call.mk (.load image) d.engine).loads = true := by
      rw [Call.loads_load]
      exact congrArg Except.isOk loaded
    have transits : isTransition ⟨⟨.load image, d.engine⟩, d.breakpoints⟩ = true := by
      rw [isTransition, loads, Bool.true_or]
    exact follows.moved transits rfl rfl
      ⟨_, List.mem_append_right _ (List.mem_singleton_self _), loads⟩
      fun attempt => absurd attempt unasked

theorem FileLoad.keeps (law : HaltsByTransition σ) {program symbolFile : File}
    {outcome : Outcome (Recorded σ) ε Unit}
    (ends : FileLoad d.recording program symbolFile outcome) :
    d.Keeps outcome := by
  cases ends with
  | noProgram => exact keeps_of_silent rfl rfl
  | noSymbols => exact keeps_of_silent rfl rfl
  | both => exact (loadImage_cases d.recording _ _).keeps law

theorem writeRegister_keeps (law : HaltsByTransition σ) (name : String) (value : Word) :
    d.Keeps (d.recording.writeRegister name value : Outcome (Recorded σ) ε Unit) := by
  unfold writeRegister
  cases d.recording.checkRegister name with
  | error cause => exact keeps_of_silent rfl rfl
  | ok _ => exact keeps_of_write rfl rfl rfl Command.noConfusion (law.writeRegister _ _ _)

theorem writeMemory_keeps (law : HaltsByTransition σ) (addr : Address) (value : Word) :
    d.Keeps (d.recording.writeMemory addr value : Outcome (Recorded σ) ε Unit) := by
  unfold writeMemory
  cases d.recording.checkMemory addr with
  | error cause => exact keeps_of_silent rfl rfl
  | ok _ => exact keeps_of_write rfl rfl rfl Command.noConfusion (law.writeMemory _ _ _)

theorem setBreakpoint_keeps (location : Location) :
    d.Keeps (d.recording.setBreakpoint location : Outcome (Recorded σ) ε Bool) := by
  unfold setBreakpoint
  cases d.recording.locate location with
  | error cause => exact keeps_of_silent rfl rfl
  | ok addr => exact keeps_of_silent rfl rfl

theorem removeBreakpoint_keeps (location : Location) :
    d.Keeps (d.recording.removeBreakpoint location : Outcome (Recorded σ) ε Bool) := by
  unfold removeBreakpoint
  cases d.recording.locate location with
  | error cause => exact keeps_of_silent rfl rfl
  | ok addr => exact keeps_of_silent rfl rfl

theorem perform_keeps (law : HaltsByTransition σ) (operation : Operation) :
    d.Keeps (d.recording.perform operation : Outcome (Recorded σ) ε Answer) := by
  cases operation with
  | load program symbolFile => exact (load_cases d.recording program symbolFile).keeps law
  | loadImage image symbols => exact (loadImage_cases d.recording image symbols).keeps law
  | step => exact step_keeps law
  | run => exact run_keeps law
  | writeRegister name value => exact writeRegister_keeps law name value
  | writeMemory addr value => exact writeMemory_keeps law addr value
  | setBreakpoint location => exact setBreakpoint_keeps location
  | removeBreakpoint location => exact removeBreakpoint_keeps location
  | resolve | isBreakpoint | clearBreakpoints | readRegister | readMemory | symbolize | symbols
  | config => exact keeps_of_silent rfl rfl

theorem Follows.perform (law : HaltsByTransition σ) (follows : d.Follows history)
    (operation : Operation) :
    (d.perform operation : Outcome σ ε Answer).debugger.Follows
      (history ++ d.moments operation) := by
  rw [perform_eq_plain]
  exact perform_keeps law operation history follows

theorem Follows.performAll (law : HaltsByTransition σ) (follows : d.Follows history)
    (operations : List Operation) :
    (d.performAll operations).Follows (history ++ d.history operations) := by
  induction operations generalizing d history with
  | nil =>
    rw [performAll_nil, Debugger.history, List.append_nil]
    exact follows
  | cons operation rest ih =>
    rw [performAll_cons, Debugger.history, ← List.append_assoc]
    exact ih (follows.perform law operation)

structure StatusTruth (d : Debugger σ) (history : List (Moment σ)) : Prop where
  halted : d.status = .halted ↔
    (∀ moment ∈ history, moment.call.loads = false) ∨ Engine.isHalted d.engine = true
  breakpointHit : d.status = .breakpointHit ↔
    ∃ moment, lastTransition history = some moment ∧ moment.call.executes = true ∧
      Engine.isHalted moment.call.result = false ∧
      moment.breakpoints.contains (Engine.pc moment.call.result) = true
  ready : d.status = .ready ↔ d.status ≠ .halted ∧ d.status ≠ .breakpointHit
  awake : AttemptsAwake history

theorem Follows.statusTruth (follows : d.Follows history) : d.StatusTruth history := by
  have status := follows.status
  cases last : lastTransition history with
  | none =>
    have unmoved := lastTransition_eq_none_iff.1 last
    have unloaded : ∀ moment ∈ history, moment.call.loads = false := fun moment listed =>
      (Bool.or_eq_false_iff.1 (unmoved moment listed)).1
    rw [last, Option.elim_none] at status
    refine ⟨iff_of_true status (.inl unloaded), iff_of_false ?_ ?_, ?_, follows.awake⟩
    · rw [status]
      exact Status.noConfusion
    · rintro ⟨moment, other, _⟩
      rw [last] at other
      cases other
    · simp [status]
  | some moment =>
    obtain ⟨earlier, listed, loads⟩ := follows.loaded moment last
    rw [last, Option.elim_some] at status
    refine ⟨?_, ?_, ?_, follows.awake⟩
    · rw [status, statusBehind_eq_halted_iff, ← follows.flag moment last]
      refine ⟨.inr, fun reason => reason.resolve_left fun unloaded => ?_⟩
      rw [unloaded earlier listed] at loads
      cases loads
    · rw [status, statusBehind_eq_breakpointHit_iff, last]
      simp only [Option.some.injEq, exists_eq_left']
    · cases d.status <;> simp

theorem statusTruth_performAll (law : HaltsByTransition σ) (engine : σ) (config : Config)
    (operations : List Operation) :
    ((ofEngine engine config).performAll operations).StatusTruth
      ((ofEngine engine config).history operations) := by
  have follows := (follows_ofEngine engine config).performAll law operations
  exact follows.statusTruth

theorem status_tells_the_truth :
    (∀ {σ ε : Type} [Engine σ ε], HaltsByTransition σ →
      ∀ (engine : σ) (config : Config) (operations : List Operation),
        ((ofEngine engine config).performAll operations).StatusTruth
          ((ofEngine engine config).history operations)) ∧
    (∀ (machine : WordMachine) (config : Config) (operations : List Operation),
      ((ofEngine machine config).performAll operations).StatusTruth
        ((ofEngine machine config).history operations)) := by
  refine ⟨?_, ?_⟩
  · intro σ ε _ law engine config operations
    exact statusTruth_performAll law engine config operations
  · intro machine config operations
    exact statusTruth_performAll wordMachine_haltsByTransition machine config operations

/-- A run that stops at a symbol, and another one that goes on from there to the end. -/
theorem status_is_true_at_breakpoint :
    let start := ofEngine (WordMachine.start []) ⟨5⟩
    let symbols := (SymbolTable.ofPairs [("end", 1)]).value
    let operations : List Operation :=
      [.loadImage [0, 0, 0, 1, 0, 0, 0, 0] symbols, .setBreakpoint (.label "end"), .run]
    let d := start.performAll operations
    let last := start.performAll (operations ++ [.run])
    d.symbols.resolve "end" = some d.pc ∧ d.status = .breakpointHit ∧
      (∃ moment, lastTransition (start.history operations) = some moment ∧
        moment.call.executes = true ∧
          moment.breakpoints.contains (Engine.pc moment.call.result) = true) ∧
      last.status = .halted ∧ Engine.isHalted last.engine = true := by
  intro start symbols operations d last
  obtain ⟨-, truth⟩ := status_tells_the_truth
  have hit : d.status = .breakpointHit := by decide +kernel
  have ended : last.status = .halted := by decide +kernel
  have loaded : ¬ ∀ moment ∈ start.history (operations ++ [.run]), moment.call.loads = false := by
    decide +kernel
  have paused := (truth (WordMachine.start []) ⟨5⟩ operations).breakpointHit
  have halted := (truth (WordMachine.start []) ⟨5⟩ (operations ++ [.run])).halted
  obtain ⟨moment, transition, executes, -, here⟩ := paused.1 hit
  have reason := halted.1 ended
  exact ⟨by decide +kernel, hit, ⟨moment, transition, executes, here⟩, ended,
    reason.resolve_left loaded⟩

end Debugger
end Stepper
