import Stepper.Breakpoints
import Stepper.Config
import Stepper.Engine
import Stepper.SymbolTable.Listing

/-!
A debugger owns the machine it drives, the symbols of the loaded program, the breakpoints and its
settings. It starts out halted, since there is no program yet. Operations return the debugger also
when they fail, so what a failure leaves behind is a part of their result.
-/
namespace Stepper

inductive Status where
  | ready
  /-- Paused in front of the instruction at a breakpoint; steps like a ready program. -/
  | breakpointHit
  /-- Nothing can be executed until a program is loaded. -/
  | halted
deriving DecidableEq

structure Debugger (σ : Type) where
  engine : σ
  config : Config
  symbols : SymbolTable
  breakpoints : Breakpoints
  status : Status

namespace Debugger

inductive LoadError (ε : Type) where
  | file (name : String) (cause : File.Error)
  | symbols (cause : SymbolTable.Error)
  | image (fault : ε)
  | symbolOutOfRange (label : String) (addr : Address)
deriving DecidableEq

inductive Error (ε : Type) where
  | load (cause : LoadError ε)
  | unknownSymbol (label : String)
  | halted
  | invalidRegister (name : String)
  | outOfBounds (addr : Address)
  | execution (fault : ε)
deriving DecidableEq

def LoadError.message {ε : Type} [ToString ε] : LoadError ε → String
  | .file name cause => s!"{name}: {cause.message}"
  | .symbols cause => cause.message
  | .image fault => s!"invalid program image: {fault}"
  | .symbolOutOfRange label addr => s!"symbol {label} ({addr.text}) is outside of the program"

def Error.message {ε : Type} [ToString ε] : Error ε → String
  | .load cause => cause.message
  | .unknownSymbol label => s!"unknown symbol {label}"
  | .halted => "program halted"
  | .invalidRegister name => s!"invalid register {name}"
  | .outOfBounds addr => s!"address {addr.text} out of bounds"
  | .execution fault => toString fault

/-- What an operation comes to: its result, the debugger behind it, and what it reported. -/
structure Outcome (σ ε α : Type) where
  result : Except (Error ε) α
  debugger : Debugger σ
  trace : List Trace

/-- A debugger without a program. -/
def ofEngine {σ : Type} (engine : σ) (config : Config) : Debugger σ where
  engine := engine
  config := config
  symbols := .empty
  breakpoints := .empty
  status := .halted

variable {σ ε : Type}

/-- An operation that looks at the debugger and reports nothing. -/
def answer {α : Type} (d : Debugger σ) (result : Except (Error ε) α) : Outcome σ ε α :=
  ⟨result, d, []⟩

def pc [Engine σ ε] (d : Debugger σ) : Address := Engine.pc d.engine

/-- The address of a label. -/
def resolve (d : Debugger σ) (label : String) : Except (Error ε) Address :=
  match d.symbols.resolve label with
  | some addr => .ok addr
  | none => .error (.unknownSymbol label)

end Debugger
end Stepper
