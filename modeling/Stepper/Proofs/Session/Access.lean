import Stepper.Proofs.Machine.Cells
import Stepper.Proofs.Session.Frame

/-!
Cells of the word machine as a debugger reads and writes them. Whether there is such a cell decides
alone whether an operation on it succeeds; a write then changes the machine in this cell.
-/
namespace Stepper

namespace Cell

def read : Cell → Operation
  | register name => .readRegister name
  | memory addr => .readMemory addr

def write : Cell → Word → Operation
  | register name => .writeRegister name
  | memory addr => .writeMemory addr

/-- What is said of a cell that does not exist. -/
def refusal : Cell → Debugger.Error WordMachine.Fault
  | register name => .invalidRegister name
  | memory addr => .outOfBounds addr

end Cell

theorem Operation.exists_write_of_kind {operation : Operation} (kind : operation.kind = .writes) :
    ∃ (cell : Cell) (value : Word), operation = cell.write value := by
  cases operation with
  | writeRegister name value => exact ⟨.register name, value, rfl⟩
  | writeMemory addr value => exact ⟨.memory addr, value, rfl⟩
  | _ => cases kind

namespace Debugger

variable (d : Debugger WordMachine)

/-- The word in a cell, as the debugger tells it. -/
def peek : Cell → Except (Error WordMachine.Fault) Word
  | .register name => d.readRegister name
  | .memory addr => d.readMemory addr

theorem checkRegister_eq (name : String) :
    d.checkRegister name =
      if (Cell.register name).Exists then .ok () else .error (.invalidRegister name) := by
  rw [checkRegister]
  exact if_congr WordMachine.isSome_registerIndex?_iff rfl rfl

theorem checkMemory_eq (addr : Address) :
    d.checkMemory addr =
      if (Cell.memory addr).Exists then .ok () else .error (.outOfBounds addr) := rfl

theorem peek_eq (cell : Cell) :
    d.peek cell = if cell.Exists then .ok (d.engine.get cell) else .error cell.refusal := by
  cases cell with
  | register name =>
    rw [peek, readRegister_eq, checkRegister_eq]
    split <;> rfl
  | memory addr =>
    rw [peek, readMemory_eq, checkMemory_eq]
    split <;> rfl

theorem perform_read (cell : Cell) :
    d.perform cell.read = ⟨(d.peek cell).map .word, d, []⟩ := by
  cases cell <;> rfl

/-- Where there is no cell, putting a word there changes nothing. -/
theorem perform_write (cell : Cell) (value : Word) :
    d.perform (cell.write value) =
      ⟨if cell.Exists then .ok .done else .error cell.refusal,
        { d with engine := d.engine.put cell value }, []⟩ := by
  cases cell with
  | register name =>
    rw [Cell.write, perform, writeRegister, checkRegister_eq]
    by_cases present : (Cell.register name).Exists
    · rw [if_pos present, if_pos present]
      rfl
    · rw [if_neg present, if_neg present, d.engine.put_of_not_exists present]
      rfl
  | memory addr =>
    rw [Cell.write, perform, writeMemory, checkMemory_eq]
    by_cases present : (Cell.memory addr).Exists
    · rw [if_pos present, if_pos present]
      rfl
    · rw [if_neg present, if_neg present, d.engine.put_of_not_exists present]
      rfl

theorem result_write (cell : Cell) (value : Word) :
    (d.perform (cell.write value)).result =
      if cell.Exists then .ok .done else .error cell.refusal := by
  rw [perform_write]

theorem debugger_write (cell : Cell) (value : Word) :
    (d.perform (cell.write value)).debugger =
      { d with engine := d.engine.put cell value } := by
  rw [perform_write]

/-- Reading and writing succeed where there is a cell, and are refused without a trace elsewhere. -/
structure AccessLaws (cell : Cell) : Prop where
  read_iff : (d.perform cell.read).result.isOk ↔ cell.Exists
  write_iff : ∀ value, (d.perform (cell.write value)).result.isOk ↔ cell.Exists
  read_refused : ¬cell.Exists → d.perform cell.read = ⟨.error cell.refusal, d, []⟩
  write_refused : ¬cell.Exists → ∀ value,
    d.perform (cell.write value) = ⟨.error cell.refusal, d, []⟩

theorem accessLaws (cell : Cell) : d.AccessLaws cell where
  read_iff := by
    rw [perform_read, peek_eq]
    split
    · next present => exact iff_of_true rfl present
    · next absent => exact iff_of_false Bool.false_ne_true absent
  write_iff := by
    intro value
    rw [perform_write]
    dsimp only
    split
    · next present => exact iff_of_true rfl present
    · next absent => exact iff_of_false Bool.false_ne_true absent
  read_refused := by
    intro absent
    rw [perform_read, peek_eq, if_neg absent]
    rfl
  write_refused := by
    intro absent value
    rw [perform_write, if_neg absent, d.engine.put_of_not_exists absent]

theorem peek_put (cell other : Cell) (value : Word) :
    peek { d with engine := d.engine.put other value } cell =
      if other.Exists ∧ other = cell then .ok value else d.peek cell := by
  rw [peek_eq, peek_eq]
  by_cases same : other = cell
  · subst same
    by_cases present : other.Exists
    · rw [if_pos present, if_pos ⟨present, rfl⟩, d.engine.get_put_self present]
    · rw [if_neg present, if_neg (fun both => present both.1), if_neg present]
  · rw [if_neg (c := other.Exists ∧ other = cell) (fun both => same both.2),
      d.engine.get_put_of_ne (Ne.symm same)]

end Debugger
end Stepper
