import Stepper.Session
import Stepper.Proofs.Machine.Recorded

/-!
A record changes nothing. Whatever a debugger does with a machine that keeps one, it does with the
machine inside as well: the same answers, the same reports and the same machine in the end.
-/
namespace Stepper.Debugger

variable {σ ε : Type}

theorem plain_setBreakpoint (d : Debugger (Recorded σ)) (location : Location) :
    (d.setBreakpoint location : Outcome (Recorded σ) ε Bool).plain =
      d.plain.setBreakpoint location := by
  have located : d.plain.locate location = (d.locate location : Except (Error ε) Address) := by
    cases location <;> rfl
  unfold setBreakpoint
  rw [located]
  cases d.locate location <;> rfl

theorem plain_removeBreakpoint (d : Debugger (Recorded σ)) (location : Location) :
    (d.removeBreakpoint location : Outcome (Recorded σ) ε Bool).plain =
      d.plain.removeBreakpoint location := by
  have located : d.plain.locate location = (d.locate location : Except (Error ε) Address) := by
    cases location <;> rfl
  unfold removeBreakpoint
  rw [located]
  cases d.locate location <;> rfl

theorem plain_map {α β : Type} (f : α → β) (outcome : Outcome (Recorded σ) ε α) :
    (outcome.map f).plain = outcome.plain.map f := rfl

variable [Engine σ ε]

theorem plain_loadImage (d : Debugger (Recorded σ)) (image : Image) (symbols : SymbolTable) :
    (d.loadImage image symbols : Outcome (Recorded σ) ε Unit).plain =
      d.plain.loadImage image symbols := by
  have asked : Engine.extent d.engine image = Engine.extent d.plain.engine image := rfl
  unfold loadImage
  rw [asked]
  dsimp only
  cases Engine.extent d.plain.engine image with
  | error fault => rfl
  | ok extent =>
    dsimp only
    cases strayed? symbols extent with
    | some outside => rfl
    | none =>
      dsimp only
      rw [Recorded.load_eq, show d.engine.machine = d.plain.engine from rfl]
      rcases Engine.load d.plain.engine image with ⟨_ | _, next⟩ <;> rfl

theorem plain_load (d : Debugger (Recorded σ)) (program symbolFile : File) :
    (d.load program symbolFile : Outcome (Recorded σ) ε Unit).plain =
      d.plain.load program symbolFile := by
  unfold load
  cases program.bytes with
  | error cause => rfl
  | ok image =>
    dsimp only
    cases (SymbolTable.ofFile symbolFile).value with
    | error cause => rfl
    | ok symbols =>
      dsimp only
      rw [← plain_loadImage]
      rfl

theorem plain_step (d : Debugger (Recorded σ)) :
    (d.step : Outcome (Recorded σ) ε Status).plain = d.plain.step := by
  unfold step
  rw [show d.plain.status = d.status from rfl]
  split
  · rfl
  · rw [Recorded.advance_eq, show d.engine.machine = d.plain.engine from rfl]
    rcases Engine.advance d.plain.engine with ⟨_ | _, next⟩ <;> rfl

theorem plain_continueFor (seen : Array Trace) (bound : Nat) (d : Debugger (Recorded σ)) :
    (continueFor seen bound d : Outcome (Recorded σ) ε Status).plain =
      continueFor seen bound d.plain := by
  induction bound generalizing seen d with
  | zero => rfl
  | succ bound ih =>
    simp only [continueFor, ← plain_step]
    rcases d.step (ε := ε) with ⟨result, next, trace⟩
    dsimp only [Outcome.plain_mk]
    split
    · exact ih _ next
    · rfl

theorem plain_run (d : Debugger (Recorded σ)) :
    (d.run : Outcome (Recorded σ) ε Status).plain = d.plain.run := by
  unfold run
  rw [show d.plain.status = d.status from rfl]
  split
  · rfl
  · rw [show d.plain.config = d.config from rfl, ← plain_continueFor]
    rfl

theorem plain_writeRegister (d : Debugger (Recorded σ)) (name : String) (value : Word) :
    (d.writeRegister name value : Outcome (Recorded σ) ε Unit).plain =
      d.plain.writeRegister name value := by
  have checked : d.plain.checkRegister name = (d.checkRegister name : Except (Error ε) Unit) := rfl
  unfold writeRegister
  rw [checked]
  cases d.checkRegister name <;> rfl

theorem plain_writeMemory (d : Debugger (Recorded σ)) (addr : Address) (value : Word) :
    (d.writeMemory addr value : Outcome (Recorded σ) ε Unit).plain =
      d.plain.writeMemory addr value := by
  have checked : d.plain.checkMemory addr = (d.checkMemory addr : Except (Error ε) Unit) := rfl
  unfold writeMemory
  rw [checked]
  cases d.checkMemory addr <;> rfl

theorem plain_perform (d : Debugger (Recorded σ)) (operation : Operation) :
    (d.perform operation : Outcome (Recorded σ) ε Answer).plain = d.plain.perform operation := by
  cases operation with
  | load program symbolFile => rw [perform, plain_map, plain_load, perform]
  | loadImage image symbols => rw [perform, plain_map, plain_loadImage, perform]
  | setBreakpoint location => rw [perform, plain_map, plain_setBreakpoint, perform]
  | removeBreakpoint location => rw [perform, plain_map, plain_removeBreakpoint, perform]
  | step => rw [perform, plain_map, plain_step, perform]
  | run => rw [perform, plain_map, plain_run, perform]
  | writeRegister name value => rw [perform, plain_map, plain_writeRegister, perform]
  | writeMemory addr value => rw [perform, plain_map, plain_writeMemory, perform]
  | resolve | isBreakpoint | clearBreakpoints | readRegister | readMemory | symbolize | symbols
  | config => rfl

theorem plain_performAll (d : Debugger (Recorded σ)) (operations : List Operation) :
    (d.performAll operations).plain = d.plain.performAll operations := by
  induction operations generalizing d with
  | nil => rfl
  | cons operation rest ih =>
    rw [performAll_cons, performAll_cons, ih, ← plain_perform]
    rfl

end Stepper.Debugger
