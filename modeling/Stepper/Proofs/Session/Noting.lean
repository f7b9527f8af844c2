import Stepper.Proofs.Machine.Laws
import Stepper.Proofs.Session.Recording

/-!
All calls that a session makes of its machine, in their order. A debugger that is given a way to
read uses it at most once in an operation, on a register or a word that the machine has, and changes
nothing then. So reads that come to no word anywhere else will do as well.
-/
namespace Stepper.Debugger

variable {σ ε : Type} [Engine σ ε]

theorem performThrough_of_answers {reads : Reads σ Option} (answers : Machine.AnswersInUse reads)
    (d : Debugger σ) (operation : Operation) :
    d.performThrough reads operation = some (d.perform operation : Outcome σ ε Answer) := by
  cases operation with
  | readRegister name =>
    rw [performThrough, perform, readRegister_eq, readRegisterThrough, checkRegister]
    by_cases known : Engine.hasRegister d.engine name = true
    · rw [if_pos known, answers.register _ _ known]
      rfl
    · rw [if_neg known]
      rfl
  | readMemory addr =>
    rw [performThrough, perform, readMemory_eq, readMemoryThrough, checkMemory]
    by_cases within : addr < Engine.memorySize d.engine
    · rw [if_pos within, answers.memory _ _ within]
      rfl
    · rw [if_neg within]
      rfl
  | _ => rfl

/-- Performs an operation and enters what it reads. -/
def performNoting (d : Debugger (Recorded σ)) (operation : Operation) : Debugger (Recorded σ) :=
  let (outcome, read) := (d.performThrough Recorded.reads operation).run []
  { outcome.debugger with
    engine := ⟨outcome.debugger.engine.machine, outcome.debugger.engine.calls ++ read⟩ }

def performAllNoting (d : Debugger (Recorded σ)) (operations : List Operation) :
    Debugger (Recorded σ) :=
  operations.foldl performNoting d

/-- All calls that a sequence of operations makes of the machine. -/
def asksOf (d : Debugger σ) (operations : List Operation) : List (Call σ) :=
  (d.recording.performAllNoting operations).engine.calls

/-- What an operation adds to the record if it reads a word of the machine. -/
structure Notes (d : Debugger (Recorded σ)) (operation : Operation) (command : Command) : Prop where
  reads : command.reads = true
  proper : Call.Proper ⟨command, d.engine.machine⟩
  noted : d.performNoting operation = { d with engine := d.engine.note command d.engine.machine }
  same : (d.perform operation : Outcome (Recorded σ) ε Answer).debugger = d
  done : (d.perform operation : Outcome (Recorded σ) ε Answer).result.isOk = true

theorem Notes.passive {d : Debugger (Recorded σ)} {operation : Operation} {command : Command}
    (notes : d.Notes operation command) : command ≠ .advance := by
  rintro rfl
  cases notes.reads

theorem performNoting_of_silent {d : Debugger (Recorded σ)} {operation : Operation}
    (silent : d.performThrough Recorded.reads operation =
      pure (d.perform operation : Outcome (Recorded σ) ε Answer)) :
    d.performNoting operation = (d.perform operation : Outcome (Recorded σ) ε Answer).debugger := by
  rw [performNoting, silent]
  change ({ (d.perform operation : Outcome (Recorded σ) ε Answer).debugger with engine := _ } :
    Debugger (Recorded σ)) = _
  dsimp only
  rw [List.append_nil]

/-- Only a read that is granted is made, and the record has nothing else that the machine has not
entered. -/
theorem performNoting_cases (d : Debugger (Recorded σ)) (operation : Operation) :
    d.performNoting operation = (d.perform operation : Outcome (Recorded σ) ε Answer).debugger ∨
      ∃ command, d.Notes operation command := by
  cases operation with
  | readRegister name =>
    by_cases known : Engine.hasRegister d.engine name = true
    · have granted : d.checkRegister name = (.ok () : Except (Error ε) Unit) := if_pos known
      refine .inr ⟨.readRegister name, rfl, known, ?_, rfl, ?_⟩
      · rw [performNoting, performThrough, readRegisterThrough, granted]
        rfl
      · rw [perform, readRegister_eq, granted]
        rfl
    · have refused : d.checkRegister name = (.error _ : Except (Error ε) Unit) := if_neg known
      refine .inl (performNoting_of_silent ?_)
      rw [performThrough, readRegisterThrough, perform, readRegister_eq, refused]
      rfl
  | readMemory addr =>
    by_cases within : addr < Engine.memorySize d.engine
    · have granted : d.checkMemory addr = (.ok () : Except (Error ε) Unit) := if_pos within
      refine .inr ⟨.readMemory addr, rfl, within, ?_, rfl, ?_⟩
      · rw [performNoting, performThrough, readMemoryThrough, granted]
        rfl
      · rw [perform, readMemory_eq, granted]
        rfl
    · have refused : d.checkMemory addr = (.error _ : Except (Error ε) Unit) := if_neg within
      refine .inl (performNoting_of_silent ?_)
      rw [performThrough, readMemoryThrough, perform, readMemory_eq, refused]
      rfl
  | _ => exact .inl (performNoting_of_silent rfl)

theorem plain_performNoting (d : Debugger (Recorded σ)) (operation : Operation) :
    (d.performNoting operation).plain =
      (d.plain.perform operation : Outcome σ ε Answer).debugger := by
  rw [← plain_perform]
  rcases performNoting_cases d operation with silent | ⟨command, notes⟩
  · rw [silent]
    rfl
  · rw [notes.noted, Outcome.plain, notes.same]
    rfl

theorem plain_performAllNoting (d : Debugger (Recorded σ)) (operations : List Operation) :
    (d.performAllNoting operations).plain = d.plain.performAll operations := by
  induction operations generalizing d with
  | nil => rfl
  | cons operation rest ih =>
    rw [performAll_cons, ← plain_performNoting]
    exact ih (d.performNoting operation)

end Stepper.Debugger
