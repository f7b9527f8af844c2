import Stepper.Debugger.Inspection
import Stepper.Proofs.Machine.Cells

/-!
The memory of the word machine as a debugger reads and writes it: all addresses below the capacity
can be used, and no others.
-/
namespace Stepper.Debugger
open WordMachine (capacity)

variable {d : Debugger WordMachine} {addr : Address}

theorem checkMemory_of_lt (within : addr.toNat < capacity) : d.checkMemory addr = .ok () :=
  if_pos within

theorem checkMemory_of_outside (outside : capacity ≤ addr.toNat) :
    d.checkMemory addr = .error (.outOfBounds addr) :=
  if_neg (Nat.not_lt.2 outside)

theorem readMemory_of_lt (within : addr.toNat < capacity) :
    d.readMemory addr = .ok (d.engine.readMemory addr) := by
  rw [readMemory_eq, checkMemory_of_lt within]
  rfl

theorem readMemory_of_outside (outside : capacity ≤ addr.toNat) :
    d.readMemory addr = .error (.outOfBounds addr) := by
  rw [readMemory_eq, checkMemory_of_outside outside]
  rfl

theorem writeMemory_eq (within : addr.toNat < capacity) (value : Word) :
    d.writeMemory addr value =
      ⟨.ok (), { d with engine := d.engine.writeMemory addr value }, []⟩ := by
  rw [writeMemory, checkMemory_of_lt within]
  rfl

theorem writeMemory_of_lt (within : addr.toNat < capacity) (value : Word) :
    (d.writeMemory addr value).result = .ok () := by
  rw [writeMemory_eq within]

theorem writeMemory_of_outside (outside : capacity ≤ addr.toNat) (value : Word) :
    (d.writeMemory addr value).result = .error (.outOfBounds addr) := by
  rw [writeMemory, checkMemory_of_outside outside]
  rfl

end Stepper.Debugger
