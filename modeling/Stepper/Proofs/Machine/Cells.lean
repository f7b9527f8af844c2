import Stepper.WordMachine.Basic

/-!
Registers and words of memory as cells. A write reaches the cell that it names and no other, and
where the word machine has no such cell it does nothing at all. So writes to different cells may
trade places.
-/
namespace Stepper

inductive Cell where
  | register (name : String)
  | memory (addr : Address)
deriving DecidableEq

/-- The word machine has such a cell. -/
def Cell.Exists : Cell → Prop
  | register name => name ∈ ["r0", "r1", "r2", "r3"]
  | memory addr => addr.toNat < 64

instance : DecidablePred Cell.Exists
  | .register name => inferInstanceAs (Decidable (name ∈ ["r0", "r1", "r2", "r3"]))
  | .memory addr => inferInstanceAs (Decidable (addr.toNat < 64))

namespace WordMachine

section Registers

variable {name otherName : String} {r s : Fin 4}

theorem isSome_registerIndex?_iff :
    (registerIndex? name).isSome ↔ (Cell.register name).Exists := by
  rw [registerIndex?, registerNames, Vector.finIdxOf?_mk, Option.isSome_map,
    Array.isSome_finIdxOf?, Array.contains_iff_mem, List.mem_toArray]
  rfl

theorem get_of_registerIndex? (found : registerIndex? name = some r) :
    registerNames.get r = name := by
  rw [registerIndex?, registerNames, Vector.finIdxOf?_mk, Option.map_eq_some_iff] at found
  obtain ⟨i, first, rfl⟩ := found
  exact (Array.finIdxOf?_eq_some_iff.1 first).1

theorem registerIndex_ne (apart : name ≠ otherName) (found : registerIndex? name = some r)
    (otherFound : registerIndex? otherName = some s) : r.val ≠ s.val := by
  intro same
  apply apart
  rw [← get_of_registerIndex? found, ← get_of_registerIndex? otherFound, Fin.ext same]

theorem readRegister_writeRegister (m : WordMachine) (present : (Cell.register name).Exists)
    (value : Word) : (m.writeRegister name value).readRegister name = value := by
  obtain ⟨r, found⟩ := Option.isSome_iff_exists.1 (isSome_registerIndex?_iff.2 present)
  simp [readRegister, writeRegister, found]

theorem readRegister_writeRegister_of_ne (m : WordMachine) (apart : name ≠ otherName)
    (value : Word) :
    (m.writeRegister otherName value).readRegister name = m.readRegister name := by
  unfold readRegister
  cases found : registerIndex? name with
  | none => rfl
  | some r =>
    change (m.writeRegister otherName value).registers[r] = m.registers[r]
    unfold writeRegister
    split
    · next s otherFound =>
      exact Vector.getElem_set_ne s.isLt r.isLt (registerIndex_ne apart found otherFound).symm
    · rfl

theorem writeRegister_comm (m : WordMachine) (apart : name ≠ otherName) (value otherValue : Word) :
    (m.writeRegister name value).writeRegister otherName otherValue =
      (m.writeRegister otherName otherValue).writeRegister name value := by
  unfold writeRegister
  split
  · next s otherFound =>
    split
    · next r found =>
      have elsewhere := registerIndex_ne apart found otherFound
      exact congrArg (fun registers => { m with registers := registers })
        (Vector.set_comm value otherValue elsewhere)
    · rfl
  · rfl

theorem writeRegister_of_not_exists (m : WordMachine) (absent : ¬(Cell.register name).Exists)
    (value : Word) : m.writeRegister name value = m := by
  rw [← isSome_registerIndex?_iff, Option.not_isSome_iff_eq_none] at absent
  rw [writeRegister, absent]

end Registers

section Memory

variable {addr otherAddr : Address}

theorem readMemory_writeMemory (m : WordMachine) (within : addr.toNat < capacity) (value : Word) :
    (m.writeMemory addr value).readMemory addr = value := by
  simp [readMemory, readMemory?, writeMemory, within]

theorem readMemory_writeMemory_of_ne (m : WordMachine) (apart : addr ≠ otherAddr) (value : Word) :
    (m.writeMemory otherAddr value).readMemory addr = m.readMemory addr := by
  have elsewhere : otherAddr.toNat ≠ addr.toNat := fun same => apart (UInt32.toNat_inj.1 same).symm
  simp only [readMemory, readMemory?, writeMemory, Vector.getElem?_setIfInBounds_ne elsewhere]

theorem writeMemory_comm (m : WordMachine) (apart : addr ≠ otherAddr) (value otherValue : Word) :
    (m.writeMemory addr value).writeMemory otherAddr otherValue =
      (m.writeMemory otherAddr otherValue).writeMemory addr value := by
  have elsewhere : addr.toNat ≠ otherAddr.toNat := fun same => apart (UInt32.toNat_inj.1 same)
  unfold writeMemory
  congr 1
  rw [← Vector.toArray_inj]
  exact Array.setIfInBounds_comm value otherValue elsewhere

theorem writeMemory_of_outside (m : WordMachine) (outside : capacity ≤ addr.toNat) (value : Word) :
    m.writeMemory addr value = m := by
  rw [writeMemory, Vector.setIfInBounds_eq_of_size_le outside]

end Memory

def get (m : WordMachine) : Cell → Word
  | .register name => m.readRegister name
  | .memory addr => m.readMemory addr

def put (m : WordMachine) : Cell → Word → WordMachine
  | .register name => m.writeRegister name
  | .memory addr => m.writeMemory addr

variable {cell other : Cell}

theorem get_put_self (m : WordMachine) (present : cell.Exists) (value : Word) :
    (m.put cell value).get cell = value := by
  cases cell with
  | register name => exact m.readRegister_writeRegister present value
  | memory addr => exact m.readMemory_writeMemory present value

theorem put_of_not_exists (m : WordMachine) (absent : ¬cell.Exists) (value : Word) :
    m.put cell value = m := by
  cases cell with
  | register name => exact m.writeRegister_of_not_exists absent value
  | memory addr => exact m.writeMemory_of_outside (Nat.not_lt.1 absent) value

theorem get_put_of_ne (m : WordMachine) (apart : cell ≠ other) (value : Word) :
    (m.put other value).get cell = m.get cell := by
  cases cell with
  | register name =>
    cases other with
    | register otherName =>
      exact m.readRegister_writeRegister_of_ne (fun same => apart (congrArg _ same)) value
    | memory otherAddr => rfl
  | memory addr =>
    cases other with
    | register otherName =>
      simp only [get, put, readMemory, readMemory?, writeRegister]
      split <;> rfl
    | memory otherAddr =>
      exact m.readMemory_writeMemory_of_ne (fun same => apart (congrArg _ same)) value

theorem put_comm (m : WordMachine) (apart : cell ≠ other) (value otherValue : Word) :
    (m.put cell value).put other otherValue = (m.put other otherValue).put cell value := by
  cases cell with
  | register name =>
    cases other with
    | register otherName =>
      exact m.writeRegister_comm (fun same => apart (congrArg _ same)) value otherValue
    | memory otherAddr =>
      simp only [put, writeRegister]
      split <;> rfl
  | memory addr =>
    cases other with
    | register otherName =>
      simp only [put, writeRegister]
      split <;> rfl
    | memory otherAddr =>
      exact m.writeMemory_comm (fun same => apart (congrArg _ same)) value otherValue

/-- Writing a cell does not move the machine. -/
theorem put_keeps (m : WordMachine) (cell : Cell) (value : Word) :
    (m.put cell value).pc = m.pc ∧ (m.put cell value).halted = m.halted ∧
      (m.put cell value).steps = m.steps := by
  cases cell with
  | register name =>
    rw [put, writeRegister]
    split <;> exact ⟨rfl, rfl, rfl⟩
  | memory addr => exact ⟨rfl, rfl, rfl⟩

end WordMachine
end Stepper
