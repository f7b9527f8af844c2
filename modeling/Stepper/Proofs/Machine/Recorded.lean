import Stepper.Debugger.Basic
import Stepper.Proofs.Machine.Attempts

/-!
A machine that keeps a record of the calls made of it, in their order and each with the machine that
it was made on. It behaves as the machine inside of it does, so the record tells what a debugger
asks of any machine. It enters the calls that may change it by itself; a read has to be entered by
who reads.
-/
namespace Stepper

inductive Command where
  | load (image : Image)
  | advance
  | writeRegister (name : String) (value : Word)
  | writeMemory (addr : Address) (value : Word)
  | readRegister (name : String)
  | readMemory (addr : Address)
deriving DecidableEq

def Command.reads : Command → Bool
  | .readRegister _ | .readMemory _ => true
  | _ => false

structure Call (σ : Type) where
  command : Command
  machine : σ

structure Recorded (σ : Type) where
  machine : σ
  calls : List (Call σ)

namespace Call

variable {σ ε : Type} [Engine σ ε]

def result (call : Call σ) : σ :=
  match call.command with
  | .load image => (Engine.load call.machine image).2
  | .advance => (Engine.advance call.machine).2
  | .writeRegister name value => Engine.writeRegister call.machine name value
  | .writeMemory addr value => Engine.writeMemory call.machine addr value
  | .readRegister _ | .readMemory _ => call.machine

def loads (call : Call σ) : Bool :=
  match call.command with
  | .load image => (Engine.load call.machine image).1.isOk
  | _ => false

def executes (call : Call σ) : Bool :=
  match call.command with
  | .advance => (Engine.advance call.machine).1.isOk
  | _ => false

/-- The machine of the call is one that the call is meant for. -/
def Proper (call : Call σ) : Prop :=
  match call.command with
  | .load image => ∃ extent, Engine.extent call.machine image = .ok extent
  | .advance => True
  | .writeRegister name _ | .readRegister name => Engine.hasRegister call.machine name = true
  | .writeMemory addr _ | .readMemory addr => addr < Engine.memorySize call.machine

theorem result_of_reads {command : Command} {machine : σ} (reads : command.reads = true) :
    result ⟨command, machine⟩ = machine := by
  cases command with
  | readRegister | readMemory => rfl
  | load | advance | writeRegister | writeMemory => cases reads

@[simp] theorem loads_load (machine : σ) (image : Image) :
    loads ⟨.load image, machine⟩ = (Engine.load machine image).1.isOk := rfl

@[simp] theorem executes_advance (machine : σ) :
    executes ⟨.advance, machine⟩ = (Engine.advance machine).1.isOk := rfl

end Call

namespace Recorded

variable {σ ε : Type}

/-- The record with one more call, which leaves this machine behind. -/
def note (recorded : Recorded σ) (command : Command) (machine : σ) : Recorded σ :=
  ⟨machine, recorded.calls ++ [⟨command, recorded.machine⟩]⟩

variable [Engine σ ε]

instance : Engine (Recorded σ) ε where
  extent recorded := Engine.extent recorded.machine
  load recorded image :=
    ((Engine.load recorded.machine image).1,
      recorded.note (.load image) (Engine.load recorded.machine image).2)
  advance recorded :=
    ((Engine.advance recorded.machine).1,
      recorded.note .advance (Engine.advance recorded.machine).2)
  isHalted recorded := Engine.isHalted recorded.machine
  pc recorded := Engine.pc recorded.machine
  hasRegister recorded := Engine.hasRegister recorded.machine
  readRegister recorded := Engine.readRegister recorded.machine
  writeRegister recorded name value :=
    recorded.note (.writeRegister name value) (Engine.writeRegister recorded.machine name value)
  memorySize recorded := Engine.memorySize recorded.machine
  readMemory recorded := Engine.readMemory recorded.machine
  writeMemory recorded addr value :=
    recorded.note (.writeMemory addr value) (Engine.writeMemory recorded.machine addr value)

/-- Reads of a machine that list what is read of it. -/
def reads : Reads (Recorded σ) (StateM (List (Call σ))) where
  register recorded name := do
    modify fun listed => listed ++ [⟨.readRegister name, recorded.machine⟩]
    return Engine.readRegister recorded name
  memory recorded addr := do
    modify fun listed => listed ++ [⟨.readMemory addr, recorded.machine⟩]
    return Engine.readMemory recorded addr

theorem load_eq (recorded : Recorded σ) (image : Image) :
    Engine.load recorded image = ((Engine.load recorded.machine image).1,
      recorded.note (.load image) (Engine.load recorded.machine image).2) := rfl

theorem advance_eq (recorded : Recorded σ) :
    Engine.advance recorded = ((Engine.advance recorded.machine).1,
      recorded.note .advance (Engine.advance recorded.machine).2) := rfl

def attempts (machine : σ) (n : Nat) : List (Call σ) :=
  (List.range n).map fun i => ⟨.advance, Machine.after machine i⟩

@[simp] theorem attempts_zero (machine : σ) : attempts machine 0 = [] := rfl

theorem attempts_succ (machine : σ) (n : Nat) :
    attempts machine (n + 1) = attempts machine n ++ [⟨.advance, Machine.after machine n⟩] := by
  unfold attempts
  rw [List.range_succ, List.map_append]
  rfl

@[simp] theorem length_attempts (machine : σ) (n : Nat) : (attempts machine n).length = n := by
  simp [attempts]

theorem mem_attempts {machine : σ} {n : Nat} {call : Call σ} :
    call ∈ attempts machine n ↔ ∃ i < n, call = ⟨.advance, Machine.after machine i⟩ := by
  simp only [attempts, List.mem_map, List.mem_range, eq_comm]

theorem after_eq (recorded : Recorded σ) (n : Nat) :
    Machine.after recorded n =
      ⟨Machine.after recorded.machine n, recorded.calls ++ attempts recorded.machine n⟩ := by
  induction n with
  | zero => simp
  | succ n ih =>
    rw [Machine.after_succ, ih, attempts_succ, ← List.append_assoc]
    rfl

theorem ends_iff {breakpoints : Breakpoints} {recorded : Recorded σ} {stop : Machine.Stop ε} :
    Machine.Ends breakpoints recorded stop ↔ Machine.Ends breakpoints recorded.machine stop := by
  constructor
  · intro ends
    cases ends with
    | fault faulted => exact .fault faulted
    | halt executed halted => exact .halt executed halted
    | breakpoint executed running paused => exact .breakpoint executed running paused
  · intro ends
    cases ends with
    | fault faulted => exact .fault faulted
    | halt executed halted => exact .halt executed halted
    | breakpoint executed running paused => exact .breakpoint executed running paused

theorem stops_iff {breakpoints : Breakpoints} {recorded : Recorded σ} :
    Machine.Stops breakpoints recorded ↔ Machine.Stops breakpoints recorded.machine :=
  exists_congr fun _ => ends_iff

theorem quiet_iff {breakpoints : Breakpoints} {recorded : Recorded σ} {n : Nat} :
    Machine.Quiet breakpoints recorded n ↔ Machine.Quiet breakpoints recorded.machine n := by
  unfold Machine.Quiet
  simp only [stops_iff, after_eq]

theorem finishes_iff {recorded : Recorded σ} {n : Nat} {stop : Machine.Stop ε} :
    Machine.Finishes recorded n stop ↔ Machine.Finishes recorded.machine n stop := by
  constructor
  · rintro ⟨quiet, ends⟩
    rw [ends_iff, after_eq] at ends
    exact ⟨quiet_iff.1 quiet, ends⟩
  · rintro ⟨quiet, ends⟩
    refine ⟨quiet_iff.2 quiet, ?_⟩
    rw [ends_iff, after_eq]
    exact ends

end Recorded

namespace Debugger

/-- The debugger with a record of its machine that starts here. -/
def recording {σ : Type} (d : Debugger σ) : Debugger (Recorded σ) :=
  { d with engine := ⟨d.engine, []⟩ }

def plain {σ : Type} (d : Debugger (Recorded σ)) : Debugger σ :=
  { d with engine := d.engine.machine }

namespace Outcome

variable {σ ε α : Type}

def calls (outcome : Outcome (Recorded σ) ε α) : List (Call σ) := outcome.debugger.engine.calls

def plain (outcome : Outcome (Recorded σ) ε α) : Outcome σ ε α :=
  { outcome with debugger := outcome.debugger.plain }

@[simp] theorem plain_mk (result : Except (Error ε) α) (d : Debugger (Recorded σ))
    (trace : List Trace) : plain ⟨result, d, trace⟩ = ⟨result, d.plain, trace⟩ := rfl

end Outcome
end Debugger
end Stepper
