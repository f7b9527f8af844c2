import Stepper.Address

/-!
What a debugger needs of the machine it drives. All operations are total functions on the machine
state; reads and writes are meant for the registers and addresses that the machine says it has, and
loading for images whose extent it has accepted. Loading and advancing may fail and still return a
state, which is the machine after the failure.
-/
namespace Stepper

/-- The bytes of a program, before a machine has given them a meaning. -/
abbrev Image := List UInt8

class Engine (σ : Type) (ε : outParam Type) where
  /-- The addresses that an image would occupy, found without loading it. -/
  extent : σ → Image → Except ε Extent
  /-- Replaces the program and starts the machine anew. -/
  load : σ → Image → Except ε Extent × σ
  /-- Executes one instruction. -/
  advance : σ → Except ε Unit × σ
  isHalted : σ → Bool
  /-- The address of the next instruction. -/
  pc : σ → Address
  hasRegister : σ → String → Bool
  readRegister : σ → String → Word
  writeRegister : σ → String → Word → σ
  /-- The number of words of memory, numbered from zero. -/
  memorySize : σ → Word
  readMemory : σ → Address → Word
  writeMemory : σ → Address → Word → σ

/-- A way to read the words of a machine. In a monad of its own a read may leave a note behind, or
may come to no word. -/
structure Reads (σ : Type) (m : Type → Type) where
  register : σ → String → m Word
  memory : σ → Address → m Word

def Engine.reads {σ ε : Type} [Engine σ ε] : Reads σ Id where
  register := Engine.readRegister
  memory := Engine.readMemory

end Stepper
