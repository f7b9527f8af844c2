import Stepper.Debugger.Execution
import Stepper.Debugger.Inspection
import Stepper.Debugger.Load
import Stepper.Debugger.Pause

/-!
The operations of a debugger as data, with their answers, and sequences of them. Every state that a
debugger can get into is what some sequence of operations leaves behind.
-/
namespace Stepper

inductive Operation where
  | load (program symbolFile : File)
  | loadImage (image : Image) (symbols : SymbolTable)
  | resolve (label : String)
  | setBreakpoint (location : Location)
  | removeBreakpoint (location : Location)
  | isBreakpoint (addr : Address)
  | clearBreakpoints
  | step
  | run
  | readRegister (name : String)
  | readMemory (addr : Address)
  | writeRegister (name : String) (value : Word)
  | writeMemory (addr : Address) (value : Word)
  | symbolize (addr : Address)
  | symbols
  | config

inductive Answer where
  | done
  | flag (value : Bool)
  | word (value : Word)
  | status (value : Status)
  | place (nearest : Option (String × Word))
  | table (symbols : SymbolTable)
  | config (settings : Config)

namespace Debugger

variable {σ ε : Type}

def Outcome.map {α β : Type} (f : α → β) (outcome : Outcome σ ε α) : Outcome σ ε β :=
  { outcome with result := outcome.result.map f }

variable [Engine σ ε]

def perform (d : Debugger σ) : Operation → Outcome σ ε Answer
  | .load program symbolFile => (d.load program symbolFile).map fun _ => .done
  | .loadImage image symbols => (d.loadImage image symbols).map fun _ => .done
  | .resolve label => d.answer ((d.resolve label).map .word)
  | .setBreakpoint location => (d.setBreakpoint location).map .flag
  | .removeBreakpoint location => (d.removeBreakpoint location).map .flag
  | .isBreakpoint addr => d.answer (.ok (.flag (d.isBreakpoint addr)))
  | .clearBreakpoints => d.clearBreakpoints.answer (.ok .done)
  | .step => d.step.map .status
  | .run => d.run.map .status
  | .readRegister name => d.answer ((d.readRegister name).map .word)
  | .readMemory addr => d.answer ((d.readMemory addr).map .word)
  | .writeRegister name value => (d.writeRegister name value).map fun _ => .done
  | .writeMemory addr value => (d.writeMemory addr value).map fun _ => .done
  | .symbolize addr => d.answer (.ok (.place (d.symbols.symbolize addr)))
  | .symbols => d.answer (.ok (.table d.symbols))
  | .config => d.answer (.ok (.config d.config))

/-- An operation whose reads are made in another way. All the others do not read. -/
def performThrough {m : Type → Type} [Monad m] (reads : Reads σ m) (d : Debugger σ) :
    Operation → m (Outcome σ ε Answer)
  | .readRegister name =>
    (fun result => d.answer (result.map .word)) <$> readRegisterThrough reads d name
  | .readMemory addr =>
    (fun result => d.answer (result.map .word)) <$> readMemoryThrough reads d addr
  | operation => pure (d.perform operation)

theorem performThrough_reads (d : Debugger σ) (operation : Operation) :
    Id.run (d.performThrough Engine.reads operation) =
      (d.perform operation : Outcome σ ε Answer) := by
  cases operation <;> rfl

/-- The debugger behind a sequence of operations, failed ones included. -/
def performAll (d : Debugger σ) (operations : List Operation) : Debugger σ :=
  operations.foldl (fun d operation => (d.perform operation : Outcome σ ε Answer).debugger) d

@[simp] theorem performAll_nil (d : Debugger σ) : d.performAll [] = d := rfl

@[simp] theorem performAll_cons (d : Debugger σ) (operation : Operation) (rest : List Operation) :
    d.performAll (operation :: rest) = (d.perform operation).debugger.performAll rest := rfl

theorem performAll_append (d : Debugger σ) (front back : List Operation) :
    d.performAll (front ++ back) = (d.performAll front).performAll back := List.foldl_append

end Debugger
end Stepper
