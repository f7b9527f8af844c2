import Stepper.Proofs.Debugger.Reporting
import Stepper.Proofs.Machine.Cells
import Stepper.Proofs.Machine.Fetching
import Stepper.Proofs.Session.BreakpointHistory
import Stepper.Proofs.Session.Keeping

/-!
A program counter of the word machine stays in reach of a jump, since an instruction that goes on to
the next address is one of memory. A breakpoint beyond that is never met, so to edit such
breakpoints is not to disturb the session.
-/
namespace Stepper
open Machine

namespace WordMachine

/-- The greatest address that a jump can go to. -/
def reach : Nat := 0xFFFF

variable {m : WordMachine}

theorem target_le_reach {word : Word} {target : Address}
    (decoded : Instruction.decode word = .jump target) : target.toNat ≤ reach := by
  have small : (operand word).toNat ≤ reach := Nat.le_of_lt_succ (operand_lt word)
  simp only [Instruction.decode] at decoded
  split_ifs at decoded
  cases decoded
  exact small

theorem pc_advance_le_reach (near : m.pc.toNat ≤ reach) :
    (Engine.advance m).2.pc.toNat ≤ reach := by
  cases answer : (Engine.advance m).1 with
  | error fault =>
    rw [advance_of_nextFault? (nextFault?_eq_some_iff.2 answer)]
    exact near
  | ok _ =>
    obtain ⟨instruction, -, fetched, -⟩ := exists_execute answer
    rw [pc_advance answer fetched]
    cases instruction with
    | halt | illegal => exact near
    | jump target =>
      obtain ⟨word, -, decoded⟩ := exists_word_of_fetch fetched
      exact target_le_reach decoded
    | nop | increment | store =>
      have below : m.pc.toNat < 64 := pc_lt_of_executed answer
      change (m.pc + 1).toNat ≤ 0xFFFF
      rw [toNat_add_one_of_lt below]
      omega

theorem keptInUse_pc_le_reach : KeptInUse fun m : WordMachine => m.pc.toNat ≤ reach where
  load m image extent _ accepted := by
    have loaded : (Engine.load m image).1 = .ok extent :=
      (wordMachine_load_fst m image).trans accepted
    rw [wordMachine_load_snd loaded]
    exact Nat.zero_le _
  advance _ near := pc_advance_le_reach near
  writeRegister m name value near _ := (m.put_keeps (.register name) value).1 ▸ near
  writeMemory _ _ _ near _ := near

end WordMachine

open WordMachine

/-- The sets have the same members in reach. -/
def Breakpoints.AgreeInReach (one other : Breakpoints) : Prop :=
  ∀ addr : Address, addr.toNat ≤ reach → other.contains addr = one.contains addr

/-- The operation edits a breakpoint beyond the reach of any program counter. -/
def Operation.editsOutOfReach : Operation → Bool
  | .setBreakpoint (.address addr) | .removeBreakpoint (.address addr) => reach < addr.toNat
  | _ => false

namespace Breakpoints.AgreeInReach

variable {one other third : Breakpoints}

theorem refl (one : Breakpoints) : one.AgreeInReach one := fun _ _ => rfl

theorem through (agree : one.AgreeInReach other) (also : one.AgreeInReach third) :
    other.AgreeInReach third := fun addr near => (also addr near).trans (agree addr near).symm

theorem insert (agree : one.AgreeInReach other) (addr : Address) :
    (one.insert addr).2.AgreeInReach (other.insert addr).2 := by
  intro found near
  rw [contains_insert, contains_insert, agree found near]

theorem erase (agree : one.AgreeInReach other) (addr : Address) :
    (one.erase addr).2.AgreeInReach (other.erase addr).2 := by
  intro found near
  rw [contains_erase, contains_erase, agree found near]

theorem ne_of_far {found addr : Address} (near : found.toNat ≤ reach) (far : reach < addr.toNat) :
    found ≠ addr := by
  rintro rfl
  exact absurd far (Nat.not_lt.2 near)

theorem insert_far {addr : Address} (far : reach < addr.toNat) :
    one.AgreeInReach (one.insert addr).2 := by
  intro found near
  rw [contains_insert, beq_false_of_ne (ne_of_far near far), Bool.false_or]

theorem erase_far {addr : Address} (far : reach < addr.toNat) :
    one.AgreeInReach (one.erase addr).2 := by
  intro found near
  rw [contains_erase, bne_iff_ne.2 (ne_of_far near far), Bool.true_and]

end Breakpoints.AgreeInReach

namespace Debugger

section Exchanging

variable {σ : Type}

def withBreakpoints (d : Debugger σ) (breakpoints : Breakpoints) : Debugger σ :=
  { d with breakpoints := breakpoints }

variable (d : Debugger σ) (breakpoints : Breakpoints)

@[simp] theorem engine_withBreakpoints : (d.withBreakpoints breakpoints).engine = d.engine := rfl

@[simp] theorem config_withBreakpoints : (d.withBreakpoints breakpoints).config = d.config := rfl

@[simp] theorem status_withBreakpoints : (d.withBreakpoints breakpoints).status = d.status := rfl

@[simp] theorem breakpoints_withBreakpoints :
    (d.withBreakpoints breakpoints).breakpoints = breakpoints := rfl

end Exchanging

/-- The answers and reports of the steps and runs in a sequence of operations. -/
def executions {σ ε : Type} [Engine σ ε] (d : Debugger σ) :
    List Operation → List (Except (Error ε) Answer × List Trace)
  | [] => []
  | operation :: rest =>
    let outcome : Outcome σ ε Answer := d.perform operation
    if operation.kind = .executes then
      (outcome.result, outcome.trace) :: outcome.debugger.executions rest
    else outcome.debugger.executions rest

section Hits

variable {σ ε : Type} [Engine σ ε] {d : Debugger σ} {entry : Entry} {addr : Address}

omit [Engine σ ε] in
theorem mem_flatten_step {pc : Address} {inner : List Trace}
    (listed : entry ∈ Trace.flatten [.span (.step pc) inner])
    (hit : entry.subject = .inr (.breakpointHit addr)) :
    entry ∈ Trace.flattenWithin ["Step"] inner := by
  simp only [Trace.flatten, Trace.flattenWithin, Trace.entriesWithin, List.append_nil,
    List.mem_cons] at listed
  rcases listed with rfl | within
  · cases hit
  · exact within

theorem eq_of_hit_in_stand {breakpoints : Breakpoints} {machine : σ} {path : List String}
    (listed : entry ∈ Trace.flattenWithin path (stand breakpoints machine).2)
    (hit : entry.subject = .inr (.breakpointHit addr)) : addr = Engine.pc machine := by
  unfold stand at listed
  split_ifs at listed
  · cases List.mem_singleton.1 listed
    cases hit
  · cases List.mem_singleton.1 listed
    cases hit
    rfl
  · cases listed

theorem eq_of_hit_in_step
    (listed : entry ∈ Trace.flatten (d.step : Outcome σ ε Status).trace)
    (hit : entry.subject = .inr (.breakpointHit addr)) :
    addr = (d.step : Outcome σ ε Status).debugger.pc := by
  by_cases asleep : d.status = .halted
  · rw [step, if_pos asleep] at listed
    cases mem_flatten_step listed hit
  · cases answer : (Engine.advance d.engine).1 with
    | error fault =>
      rw [step_of_faulted asleep answer] at listed
      cases mem_flatten_step listed hit
    | ok _ =>
      rw [step_of_executed asleep answer] at listed ⊢
      exact eq_of_hit_in_stand (mem_flatten_step listed hit) hit

/-- A breakpoint that is reported to be hit is the one where the machine then is. -/
theorem eq_of_reported_hit {operation : Operation} (kind : operation.kind = .executes)
    (listed : entry ∈ Trace.flatten (d.perform operation : Outcome σ ε Answer).trace)
    (hit : entry.subject = .inr (.breakpointHit addr)) :
    addr = (d.perform operation : Outcome σ ε Answer).debugger.pc := by
  cases operation with
  | step => exact eq_of_hit_in_step listed hit
  | run =>
    obtain ⟨closing, reported⟩ := exists_runReported (ε := ε) d
    change entry ∈ Trace.flatten (d.run : Outcome σ ε Status).trace at listed
    rw [reported.entries, List.mem_append, List.mem_cons] at listed
    rcases listed with (rfl | listed) | listed
    · cases hit
    · obtain ⟨call, -, rfl⟩ := List.mem_map.1 listed
      cases hit
    · rcases reported.nothingElse entry (Option.mem_toList.1 listed) with rfl | rfl | rfl <;>
        cases hit
      rfl
  | _ => cases kind

end Hits

section Executing

variable {d : Debugger WordMachine} {breakpoints : Breakpoints}

/-- The outcome of an operation, with other breakpoints in the end. -/
def Outcome.withBreakpoints {σ ε α : Type} (outcome : Outcome σ ε α) (breakpoints : Breakpoints) :
    Outcome σ ε α :=
  { outcome with debugger := outcome.debugger.withBreakpoints breakpoints }

theorem step_withBreakpoints (near : d.engine.pc.toNat ≤ reach)
    (agree : d.breakpoints.AgreeInReach breakpoints) :
    (d.withBreakpoints breakpoints).step = d.step.withBreakpoints breakpoints := by
  have stood : stand breakpoints (Engine.advance d.engine).2 =
      stand d.breakpoints (Engine.advance d.engine).2 := by
    have next : (Engine.pc (Engine.advance d.engine).2).toNat ≤ reach := pc_advance_le_reach near
    unfold stand
    rw [agree _ next]
  unfold step
  rw [status_withBreakpoints, engine_withBreakpoints, breakpoints_withBreakpoints]
  split
  · rfl
  · rcases advanced : Engine.advance d.engine with ⟨_ | _, next⟩
    · rfl
    · rw [advanced] at stood
      dsimp only at stood ⊢
      rw [stood]
      rfl

/-- A step leaves the breakpoints alone and the program counter in reach. -/
theorem step_stays (near : d.engine.pc.toNat ≤ reach) :
    d.step.debugger.engine.pc.toNat ≤ reach ∧ d.step.debugger.breakpoints = d.breakpoints := by
  obtain ⟨attempts, status, next⟩ := exists_step_debugger d
  rw [next]
  exact ⟨keptInUse_pc_le_reach.after near attempts, rfl⟩

theorem continueFor_withBreakpoints (seen : Array Trace) (bound : Nat)
    (near : d.engine.pc.toNat ≤ reach) (agree : d.breakpoints.AgreeInReach breakpoints) :
    continueFor seen bound (d.withBreakpoints breakpoints) =
      (continueFor seen bound d).withBreakpoints breakpoints := by
  induction bound generalizing seen d with
  | zero => rfl
  | succ bound ih =>
    obtain ⟨stillNear, same⟩ := step_stays near
    have later := ih (seen ++ d.step.trace) stillNear (same ▸ agree)
    simp only [continueFor, step_withBreakpoints near agree, Outcome.withBreakpoints]
    split
    · exact later
    · rfl

theorem run_withBreakpoints (near : d.engine.pc.toNat ≤ reach)
    (agree : d.breakpoints.AgreeInReach breakpoints) :
    (d.withBreakpoints breakpoints).run = d.run.withBreakpoints breakpoints := by
  unfold run
  rw [status_withBreakpoints, config_withBreakpoints]
  split
  · rfl
  · rw [continueFor_withBreakpoints _ _ near agree]
    rfl

theorem perform_withBreakpoints_of_executes {operation : Operation}
    (kind : operation.kind = .executes) (near : d.engine.pc.toNat ≤ reach)
    (agree : d.breakpoints.AgreeInReach breakpoints) :
    (d.withBreakpoints breakpoints).perform operation =
      (d.perform operation).withBreakpoints breakpoints := by
  cases operation with
  | step =>
    rw [perform, perform, step_withBreakpoints near agree]
    rfl
  | run =>
    rw [perform, perform, run_withBreakpoints near agree]
    rfl
  | _ => cases kind

end Executing

section Sequences

variable {d : Debugger WordMachine} {breakpoints : Breakpoints}

/-- The debuggers differ in breakpoints out of reach at most. -/
def SameInReach (d other : Debugger WordMachine) : Prop :=
  ∃ breakpoints, other = d.withBreakpoints breakpoints ∧ d.breakpoints.AgreeInReach breakpoints

theorem sameInReach_loadImage (agree : d.breakpoints.AgreeInReach breakpoints) (image : Image)
    (symbols : SymbolTable) :
    (d.loadImage image symbols).debugger.SameInReach
      ((d.withBreakpoints breakpoints).loadImage image symbols).debugger := by
  unfold loadImage
  rw [engine_withBreakpoints]
  cases Engine.extent d.engine image with
  | error fault => exact ⟨breakpoints, rfl, agree⟩
  | ok extent =>
    dsimp only
    cases strayed? symbols extent with
    | some outside => exact ⟨breakpoints, rfl, agree⟩
    | none =>
      dsimp only
      rcases Engine.load d.engine image with ⟨_ | _, next⟩
      · exact ⟨breakpoints, rfl, agree⟩
      · exact ⟨.empty, rfl, .refl _⟩

theorem sameInReach_load (agree : d.breakpoints.AgreeInReach breakpoints)
    (program symbolFile : File) :
    (d.load program symbolFile).debugger.SameInReach
      ((d.withBreakpoints breakpoints).load program symbolFile).debugger := by
  unfold load
  cases program.bytes with
  | error cause => exact ⟨breakpoints, rfl, agree⟩
  | ok image =>
    dsimp only
    cases (SymbolTable.ofFile symbolFile).value with
    | error cause => exact ⟨breakpoints, rfl, agree⟩
    | ok symbols => exact sameInReach_loadImage agree image symbols

theorem locate_withBreakpoints (location : Location) :
    (d.withBreakpoints breakpoints).locate location =
      (d.locate location : Except (Error Fault) Address) := by
  cases location <;> rfl

theorem checkRegister_withBreakpoints (name : String) :
    (d.withBreakpoints breakpoints).checkRegister name =
      (d.checkRegister name : Except (Error Fault) Unit) := rfl

theorem checkMemory_withBreakpoints (addr : Address) :
    (d.withBreakpoints breakpoints).checkMemory addr =
      (d.checkMemory addr : Except (Error Fault) Unit) := rfl

theorem sameInReach_perform (near : d.engine.pc.toNat ≤ reach)
    (agree : d.breakpoints.AgreeInReach breakpoints) (operation : Operation) :
    (d.perform operation).debugger.SameInReach
      ((d.withBreakpoints breakpoints).perform operation).debugger := by
  cases operation with
  | load program symbolFile => exact sameInReach_load agree program symbolFile
  | loadImage image symbols => exact sameInReach_loadImage agree image symbols
  | setBreakpoint location =>
    rw [perform, perform, setBreakpoint, setBreakpoint, locate_withBreakpoints]
    cases d.locate location with
    | error cause => exact ⟨breakpoints, rfl, agree⟩
    | ok addr => exact ⟨_, rfl, agree.insert addr⟩
  | removeBreakpoint location =>
    rw [perform, perform, removeBreakpoint, removeBreakpoint, locate_withBreakpoints]
    cases d.locate location with
    | error cause => exact ⟨breakpoints, rfl, agree⟩
    | ok addr => exact ⟨_, rfl, agree.erase addr⟩
  | clearBreakpoints => exact ⟨.empty, rfl, .refl _⟩
  | step | run =>
    rw [perform_withBreakpoints_of_executes rfl near agree]
    refine ⟨breakpoints, rfl, ?_⟩
    rw [breakpoints_perform (by decide) fun loads => absurd loads (by decide)]
    exact agree
  | writeRegister name value =>
    rw [perform, perform, writeRegister, writeRegister, checkRegister_withBreakpoints]
    cases d.checkRegister name <;> exact ⟨breakpoints, rfl, agree⟩
  | writeMemory addr value =>
    rw [perform, perform, writeMemory, writeMemory, checkMemory_withBreakpoints]
    cases d.checkMemory addr <;> exact ⟨breakpoints, rfl, agree⟩
  | resolve | isBreakpoint | readRegister | readMemory | symbolize | symbols | config =>
    exact ⟨breakpoints, rfl, agree⟩

theorem SameInReach.refl (d : Debugger WordMachine) : d.SameInReach d :=
  ⟨d.breakpoints, rfl, .refl _⟩

theorem SameInReach.through {other third : Debugger WordMachine} (same : d.SameInReach other)
    (also : d.SameInReach third) : other.SameInReach third := by
  obtain ⟨breakpoints, rfl, agree⟩ := same
  obtain ⟨others, rfl, agreeAlso⟩ := also
  exact ⟨others, rfl, agree.through agreeAlso⟩

theorem SameInReach.symm {other : Debugger WordMachine} (same : d.SameInReach other) :
    other.SameInReach d := same.through (.refl d)

theorem sameInReach_of_editsOutOfReach {operation : Operation}
    (edits : operation.editsOutOfReach = true) :
    d.SameInReach (d.perform operation).debugger := by
  cases operation with
  | setBreakpoint location =>
    cases location with
    | address addr => exact ⟨_, rfl, .insert_far (of_decide_eq_true edits)⟩
    | label => cases edits
  | removeBreakpoint location =>
    cases location with
    | address addr => exact ⟨_, rfl, .erase_far (of_decide_eq_true edits)⟩
    | label => cases edits
  | _ => cases edits

theorem kind_of_editsOutOfReach {operation : Operation}
    (edits : operation.editsOutOfReach = true) : operation.kind ≠ .executes := by
  intro kind
  cases operation with
  | step | run => cases edits
  | _ => cases kind

/-- Leaving out the edits that are out of reach is not noticed by a step or a run. -/
theorem executions_filter {other : Debugger WordMachine} (near : d.engine.pc.toNat ≤ reach)
    (same : d.SameInReach other) (operations : List Operation) :
    let kept := operations.filter (!·.editsOutOfReach)
    other.executions kept = d.executions operations ∧
      (d.performAll operations).SameInReach (other.performAll kept) := by
  induction operations generalizing d other with
  | nil => exact ⟨rfl, same⟩
  | cons operation rest ih =>
    have stillNear := keptInUse_pc_le_reach.perform near operation
    by_cases edits : operation.editsOutOfReach = true
    · have later := ih stillNear ((sameInReach_of_editsOutOfReach edits).through same)
      rw [List.filter_cons_of_neg (by simp [edits]), executions,
        if_neg (kind_of_editsOutOfReach edits)]
      exact later
    · rw [List.filter_cons_of_pos (by simp [edits])]
      obtain ⟨breakpoints, rfl, agree⟩ := same
      have later := ih stillNear (sameInReach_perform near agree operation)
      refine ⟨?_, later.2⟩
      rw [executions, executions, later.1]
      by_cases kind : operation.kind = .executes
      · rw [if_pos kind, if_pos kind, perform_withBreakpoints_of_executes kind near agree]
        rfl
      · rw [if_neg kind, if_neg kind]

theorem executions_eq_of_filter_eq {operations others : List Operation}
    (near : d.engine.pc.toNat ≤ reach)
    (same : others.filter (!·.editsOutOfReach) = operations.filter (!·.editsOutOfReach)) :
    d.executions others = d.executions operations ∧
      (d.performAll operations).SameInReach (d.performAll others) := by
  obtain ⟨executed, ends⟩ := executions_filter near (.refl d) operations
  obtain ⟨executedToo, endsToo⟩ := executions_filter near (.refl d) others
  rw [same] at executedToo endsToo
  exact ⟨executedToo.symm.trans executed, ends.symm.through endsToo.symm⟩

end Sequences
end Debugger
end Stepper
