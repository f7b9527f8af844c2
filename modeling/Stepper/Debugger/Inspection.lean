import Stepper.Debugger.Basic

/-!
Registers and memory of the machine. Names and addresses are checked here, so that the machine is
asked only for what it has. Writing leaves the status alone.
-/
namespace Stepper.Debugger

variable {σ ε : Type} [Engine σ ε]

def checkRegister (d : Debugger σ) (name : String) : Except (Error ε) Unit :=
  if Engine.hasRegister d.engine name then .ok () else .error (.invalidRegister name)

def checkMemory (d : Debugger σ) (addr : Address) : Except (Error ε) Unit :=
  if addr < Engine.memorySize d.engine then .ok () else .error (.outOfBounds addr)

section Reading

variable {m : Type → Type} [Monad m]

def readRegisterThrough (reads : Reads σ m) (d : Debugger σ) (name : String) :
    m (Except (Error ε) Word) :=
  match d.checkRegister name with
  | .error cause => pure (.error cause)
  | .ok () => .ok <$> reads.register d.engine name

def readMemoryThrough (reads : Reads σ m) (d : Debugger σ) (addr : Address) :
    m (Except (Error ε) Word) :=
  match d.checkMemory addr with
  | .error cause => pure (.error cause)
  | .ok () => .ok <$> reads.memory d.engine addr

end Reading

def readRegister (d : Debugger σ) (name : String) : Except (Error ε) Word :=
  Id.run (readRegisterThrough Engine.reads d name)

def readMemory (d : Debugger σ) (addr : Address) : Except (Error ε) Word :=
  Id.run (readMemoryThrough Engine.reads d addr)

def writeRegister (d : Debugger σ) (name : String) (value : Word) : Outcome σ ε Unit :=
  match d.checkRegister name with
  | .error cause => d.answer (.error cause)
  | .ok () => answer { d with engine := Engine.writeRegister d.engine name value } (.ok ())

def writeMemory (d : Debugger σ) (addr : Address) (value : Word) : Outcome σ ε Unit :=
  match d.checkMemory addr with
  | .error cause => d.answer (.error cause)
  | .ok () => answer { d with engine := Engine.writeMemory d.engine addr value } (.ok ())

theorem readRegister_eq (d : Debugger σ) (name : String) : d.readRegister name =
    (d.checkRegister name).map fun _ => Engine.readRegister d.engine name := by
  unfold readRegister readRegisterThrough
  cases d.checkRegister name <;> rfl

theorem readMemory_eq (d : Debugger σ) (addr : Address) : d.readMemory addr =
    (d.checkMemory addr).map fun _ => Engine.readMemory d.engine addr := by
  unfold readMemory readMemoryThrough
  cases d.checkMemory addr <;> rfl

end Stepper.Debugger
