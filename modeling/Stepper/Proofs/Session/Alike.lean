import Stepper.Proofs.Session.Reloading

/-!
What a machine does when it is used in a way that it is not meant for makes no difference. A read
leaves no trace in the machine, so that none is made outside of its registers and its memory shows
in this only: whatever would be read there, the session is the same.
-/
namespace Stepper

/-- Machines over the same states that agree on whatever they are meant for: on loading the images
that they accept, and on the registers and the memory that they say they have. -/
structure Machine.AlikeInUse {σ ε : Type} (one other : Engine σ ε) : Prop where
  extent : one.extent = other.extent
  load : ∀ machine image extent, one.extent machine image = .ok extent →
    one.load machine image = other.load machine image
  advance : one.advance = other.advance
  isHalted : one.isHalted = other.isHalted
  pc : one.pc = other.pc
  hasRegister : one.hasRegister = other.hasRegister
  readRegister : ∀ machine name, one.hasRegister machine name = true →
    one.readRegister machine name = other.readRegister machine name
  writeRegister : ∀ machine name value, one.hasRegister machine name = true →
    one.writeRegister machine name value = other.writeRegister machine name value
  memorySize : one.memorySize = other.memorySize
  readMemory : ∀ machine addr, addr < one.memorySize machine →
    one.readMemory machine addr = other.readMemory machine addr
  writeMemory : ∀ machine addr value, addr < one.memorySize machine →
    one.writeMemory machine addr value = other.writeMemory machine addr value

/-- Does as the first machine where it is used as it is meant to be, and as the second one where it
is not. -/
@[reducible] def Machine.unlessMisused {σ ε : Type} (proper misused : Engine σ ε) : Engine σ ε where
  extent := proper.extent
  load machine image :=
    if (proper.extent machine image).isOk then proper.load machine image
    else misused.load machine image
  advance := proper.advance
  isHalted := proper.isHalted
  pc := proper.pc
  hasRegister := proper.hasRegister
  readRegister machine name :=
    if proper.hasRegister machine name then proper.readRegister machine name
    else misused.readRegister machine name
  writeRegister machine name value :=
    if proper.hasRegister machine name then proper.writeRegister machine name value
    else misused.writeRegister machine name value
  memorySize := proper.memorySize
  readMemory machine addr :=
    if addr < proper.memorySize machine then proper.readMemory machine addr
    else misused.readMemory machine addr
  writeMemory machine addr value :=
    if addr < proper.memorySize machine then proper.writeMemory machine addr value
    else misused.writeMemory machine addr value

theorem Machine.alikeInUse_unlessMisused {σ ε : Type} (proper misused : Engine σ ε) :
    AlikeInUse proper (unlessMisused proper misused) where
  extent := rfl
  load machine image extent accepted := by
    have taken : (proper.extent machine image).isOk = true := by
      rw [accepted]
      rfl
    exact (if_pos taken).symm
  advance := rfl
  isHalted := rfl
  pc := rfl
  hasRegister := rfl
  readRegister machine name known := (if_pos known).symm
  writeRegister machine name value known := (if_pos known).symm
  memorySize := rfl
  readMemory machine addr within := (if_pos within).symm
  writeMemory machine addr value within := (if_pos within).symm

namespace Debugger
open Machine

variable {σ ε : Type} {one other : Engine σ ε}

theorem readRegister_alike (alike : AlikeInUse one other) (d : Debugger σ) (name : String) :
    @readRegister σ ε one d name = @readRegister σ ε other d name := by
  unfold readRegister readRegisterThrough checkRegister
  rw [← alike.hasRegister]
  by_cases known : one.hasRegister d.engine name = true
  · rw [if_pos known]
    exact congrArg Except.ok (alike.readRegister _ _ known)
  · rw [if_neg known]

theorem readMemory_alike (alike : AlikeInUse one other) (d : Debugger σ) (addr : Address) :
    @readMemory σ ε one d addr = @readMemory σ ε other d addr := by
  unfold readMemory readMemoryThrough checkMemory
  rw [← alike.memorySize]
  by_cases within : addr < one.memorySize d.engine
  · rw [if_pos within]
    exact congrArg Except.ok (alike.readMemory _ _ within)
  · rw [if_neg within]

theorem writeRegister_alike (alike : AlikeInUse one other) (d : Debugger σ) (name : String)
    (value : Word) :
    @writeRegister σ ε one d name value = @writeRegister σ ε other d name value := by
  unfold writeRegister checkRegister
  rw [← alike.hasRegister]
  by_cases known : one.hasRegister d.engine name = true
  · rw [if_pos known, alike.writeRegister _ _ _ known]
  · rw [if_neg known]

theorem writeMemory_alike (alike : AlikeInUse one other) (d : Debugger σ) (addr : Address)
    (value : Word) :
    @writeMemory σ ε one d addr value = @writeMemory σ ε other d addr value := by
  unfold writeMemory checkMemory
  rw [← alike.memorySize]
  by_cases within : addr < one.memorySize d.engine
  · rw [if_pos within, alike.writeMemory _ _ _ within]
  · rw [if_neg within]

theorem loadImage_alike (alike : AlikeInUse one other) (d : Debugger σ) (image : Image)
    (symbols : SymbolTable) :
    @loadImage σ ε one d image symbols = @loadImage σ ε other d image symbols := by
  unfold loadImage
  rw [← alike.extent]
  cases accepted : one.extent d.engine image with
  | error fault => rfl
  | ok extent =>
    rw [← alike.load _ _ _ accepted]
    unfold withProgram loadedStatus
    rw [← alike.isHalted]

theorem load_alike (alike : AlikeInUse one other) (d : Debugger σ) (program symbolFile : File) :
    @load σ ε one d program symbolFile = @load σ ε other d program symbolFile := by
  unfold load
  simp only [loadImage_alike alike]

theorem step_alike (alike : AlikeInUse one other) (d : Debugger σ) :
    @step σ ε one d = @step σ ε other d := by
  unfold step stand pc
  rw [← alike.advance, ← alike.isHalted, ← alike.pc]

theorem continueFor_alike (alike : AlikeInUse one other) (seen : Array Trace) (bound : Nat)
    (d : Debugger σ) :
    @continueFor σ ε one seen bound d = @continueFor σ ε other seen bound d := by
  induction bound generalizing seen d with
  | zero => rfl
  | succ bound ih => simp only [continueFor, step_alike alike, ih]

theorem run_alike (alike : AlikeInUse one other) (d : Debugger σ) :
    @run σ ε one d = @run σ ε other d := by
  unfold run
  rw [continueFor_alike alike]

theorem perform_alike (alike : AlikeInUse one other) (d : Debugger σ) (operation : Operation) :
    @perform σ ε one d operation = @perform σ ε other d operation := by
  cases operation with
  | load program symbolFile => simp only [perform, load_alike alike]
  | loadImage image symbols => simp only [perform, loadImage_alike alike]
  | step => simp only [perform, step_alike alike]
  | run => simp only [perform, run_alike alike]
  | readRegister name => simp only [perform, readRegister_alike alike]
  | readMemory addr => simp only [perform, readMemory_alike alike]
  | writeRegister name value => simp only [perform, writeRegister_alike alike]
  | writeMemory addr value => simp only [perform, writeMemory_alike alike]
  | resolve | setBreakpoint | removeBreakpoint | isBreakpoint | clearBreakpoints | symbolize
  | symbols | config => rfl

theorem outcomes_alike (alike : AlikeInUse one other) (d : Debugger σ)
    (operations : List Operation) :
    @outcomes σ ε one d operations = @outcomes σ ε other d operations := by
  induction operations generalizing d with
  | nil => rfl
  | cons operation rest ih => simp only [outcomes, perform_alike alike, ih]

end Debugger
end Stepper
