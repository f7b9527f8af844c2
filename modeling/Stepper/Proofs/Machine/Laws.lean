import Stepper.WordMachine.Basic

/-!
What a debugger relies on beyond the operations of a machine. The word machine obeys all of it,
since its faults and refusals leave it as it was.
-/
namespace Stepper.Machine

/-- A program that cannot be loaded leaves the machine as it was. -/
def FailedLoadKeeps (σ : Type) {ε : Type} [Engine σ ε] : Prop :=
  ∀ (machine : σ) (image : Image) (fault : ε),
    (Engine.load machine image).1 = .error fault → (Engine.load machine image).2 = machine

/-- Only an instruction that is executed and a program that is loaded halt or wake the machine. -/
structure HaltsByTransition (σ : Type) {ε : Type} [Engine σ ε] : Prop where
  advance : ∀ (machine : σ) (fault : ε), (Engine.advance machine).1 = .error fault →
    Engine.isHalted (Engine.advance machine).2 = Engine.isHalted machine
  load : ∀ (machine : σ) (image : Image) (fault : ε), (Engine.load machine image).1 = .error fault →
    Engine.isHalted (Engine.load machine image).2 = Engine.isHalted machine
  writeRegister : ∀ (machine : σ) (name : String) (value : Word),
    Engine.isHalted (Engine.writeRegister machine name value) = Engine.isHalted machine
  writeMemory : ∀ (machine : σ) (addr : Address) (value : Word),
    Engine.isHalted (Engine.writeMemory machine addr value) = Engine.isHalted machine

/-- Loading takes no account of what the machine did before. -/
structure LoadsAfresh (σ : Type) {ε : Type} [Engine σ ε] : Prop where
  extent : ∀ (machine other : σ) (image : Image),
    Engine.extent machine image = Engine.extent other image
  answer : ∀ (machine other : σ) (image : Image),
    (Engine.load machine image).1 = (Engine.load other image).1
  machine : ∀ (machine other : σ) (image : Image) (extent : Extent),
    (Engine.load machine image).1 = .ok extent →
      (Engine.load machine image).2 = (Engine.load other image).2

/-- The reads come to the words of the machine where it is meant to be read. -/
structure AnswersInUse {σ ε : Type} [Engine σ ε] (reads : Reads σ Option) : Prop where
  register : ∀ machine name, Engine.hasRegister machine name = true →
    reads.register machine name = some (Engine.readRegister machine name)
  memory : ∀ machine addr, addr < Engine.memorySize machine →
    reads.memory machine addr = some (Engine.readMemory machine addr)

theorem wordMachine_failedLoadKeeps : FailedLoadKeeps WordMachine := by
  intro machine image fault failed
  exact WordMachine.eq_of_load_error (Prod.ext failed rfl)

theorem wordMachine_haltsByTransition : HaltsByTransition WordMachine where
  advance := by
    intro machine fault faulted
    exact congrArg Engine.isHalted (WordMachine.eq_of_advance_error (Prod.ext faulted rfl))
  load := by
    intro machine image fault failed
    exact congrArg Engine.isHalted (wordMachine_failedLoadKeeps machine image fault failed)
  writeRegister := by
    intro machine name value
    change (machine.writeRegister name value).halted = machine.halted
    unfold WordMachine.writeRegister
    split <;> rfl
  writeMemory := by
    intro machine addr value
    rfl

theorem wordMachine_answersInUse : AnswersInUse WordMachine.reads? where
  register := fun _ _ _ => rfl
  memory := by
    intro machine addr within
    have within : addr.toNat < WordMachine.capacity := within
    change machine.memory[addr.toNat]? = some (machine.memory[addr.toNat]?.getD 0)
    rw [Vector.getElem?_eq_getElem within]
    rfl

theorem wordMachine_load_fst (machine : WordMachine) (image : Image) :
    (Engine.load machine image).1 = WordMachine.extent image := by
  change (machine.load image).1 = _
  unfold WordMachine.load
  split
  · next accepted => exact accepted.symm
  · next rejected => exact rejected.symm

theorem wordMachine_load_snd {machine : WordMachine} {image : Image} {extent : Extent}
    (loaded : (Engine.load machine image).1 = .ok extent) :
    (Engine.load machine image).2 = .start (WordMachine.words image) := by
  rw [wordMachine_load_fst] at loaded
  change (machine.load image).2 = _
  unfold WordMachine.load
  rw [loaded]

theorem wordMachine_loadsAfresh : LoadsAfresh WordMachine where
  extent := by
    intro machine other image
    rfl
  answer := by
    intro machine other image
    rw [wordMachine_load_fst, wordMachine_load_fst]
  machine := by
    intro machine other image extent loaded
    have again : (Engine.load other image).1 = .ok extent := by
      rw [← loaded, wordMachine_load_fst, wordMachine_load_fst]
    rw [wordMachine_load_snd loaded, wordMachine_load_snd again]

end Stepper.Machine
