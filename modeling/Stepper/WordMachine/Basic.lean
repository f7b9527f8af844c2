import Stepper.Engine
import Stepper.WordMachine.Instruction

/-!
A machine of sixty-four words and four registers. Memory holds program and data, so a program can
change itself. A fault leaves the machine as it was.
-/
namespace Stepper

/-- Number of memory words. -/
abbrev WordMachine.capacity : Nat := 64

structure WordMachine where
  memory : Vector Word WordMachine.capacity
  registers : Vector Word 4
  pc : Address
  halted : Bool
  /-- Instructions executed since the last load. -/
  steps : UInt64
deriving DecidableEq

namespace WordMachine

inductive Fault where
  | misaligned (size : Nat)
  | tooLarge (words : Nat)
  | illegalOpcode (opcode : Word) (addr : Address)
  | pcOutOfBounds (addr : Address)
deriving DecidableEq

def Fault.message : Fault → String
  | .misaligned size => s!"image length {Numeral.decimal size} is not word-aligned"
  | .tooLarge words => s!"image of {Numeral.decimal words} words exceeds memory"
  | .illegalOpcode opcode addr =>
    s!"illegal opcode {Numeral.hexadecimal opcode.toNat} at {addr.text}"
  | .pcOutOfBounds addr => s!"program counter {addr.text} outside of memory"

instance : ToString Fault := ⟨Fault.message⟩

/-- What an instruction at `m.pc` does, apart from being counted. -/
def execute (m : WordMachine) : Instruction → Except Fault WordMachine
  | .halt => .ok { m with halted := true }
  | .nop => .ok { m with pc := m.pc + 1 }
  | .increment r =>
    .ok { m with registers := m.registers.set r (m.registers[r] + 1), pc := m.pc + 1 }
  | .jump target => .ok { m with pc := target }
  | .store r slot =>
    if h : slot.toNat < capacity then
      .ok { m with memory := m.memory.set slot.toNat m.registers[r], pc := m.pc + 1 }
    else .error (.illegalOpcode storeOpcode m.pc)
  | .illegal code => .error (.illegalOpcode code m.pc)

/-- The instruction that comes next, if the program counter is inside of memory. -/
def fetch (m : WordMachine) : Except Fault Instruction :=
  if h : m.pc.toNat < capacity then .ok (Instruction.decode m.memory[m.pc.toNat])
  else .error (.pcOutOfBounds m.pc)

def advance (m : WordMachine) : Except Fault Unit × WordMachine :=
  match m.fetch.bind m.execute with
  | .ok next => (.ok (), { next with steps := next.steps + 1 })
  | .error fault => (.error fault, m)

theorem eq_of_advance_error {m next : WordMachine} {fault : Fault}
    (h : m.advance = (.error fault, next)) : next = m := by
  unfold advance at h
  split at h
  · simp at h
  · exact (Prod.mk.inj h).2.symm

/-- A word from its four bytes, the lowest first. -/
def littleEndian (b0 b1 b2 b3 : UInt8) : Word :=
  .ofNat (b0.toNat + 0x100 * b1.toNat + 0x10000 * b2.toNat + 0x1000000 * b3.toNat)

theorem toNat_littleEndian (b0 b1 b2 b3 : UInt8) :
    (littleEndian b0 b1 b2 b3).toNat =
      b0.toNat + 0x100 * b1.toNat + 0x10000 * b2.toNat + 0x1000000 * b3.toNat := by
  have h0 := b0.toNat_lt
  have h1 := b1.toNat_lt
  have h2 := b2.toNat_lt
  have h3 := b3.toNat_lt
  simp only [littleEndian, UInt32.toNat_ofNat']
  omega

/-- The whole words of an image. -/
def words : Image → List Word
  | b0 :: b1 :: b2 :: b3 :: rest => littleEndian b0 b1 b2 b3 :: words rest
  | _ => []

/-- A machine that starts at address zero with these words in memory and zeros behind them. -/
def start (program : List Word) : WordMachine where
  memory := .ofFn fun i => program.getD i 0
  registers := .replicate 4 0
  pc := 0
  halted := false
  steps := 0

def extent (image : Image) : Except Fault Extent :=
  let size := image.length
  if size % 4 ≠ 0 then .error (.misaligned size)
  else if capacity < size / 4 then .error (.tooLarge (size / 4))
  else .ok ⟨0, (size / 4).toUInt32⟩

theorem extent_eq_ok_iff {image : Image} {occupied : Extent} :
    extent image = .ok occupied ↔
      image.length % 4 = 0 ∧ image.length / 4 ≤ capacity ∧
        occupied = ⟨0, (image.length / 4).toUInt32⟩ := by
  simp only [extent]
  split
  · next odd => simp [odd]
  · next aligned =>
    split
    · next large =>
      simp only [reduceCtorEq, false_iff]
      omega
    · next fits =>
      simp only [Except.ok.injEq, Decidable.not_not.1 aligned, Nat.not_lt.1 fits, true_and, eq_comm]

def load (m : WordMachine) (image : Image) : Except Fault Extent × WordMachine :=
  match extent image with
  | .ok occupied => (.ok occupied, start (words image))
  | .error fault => (.error fault, m)

theorem eq_of_load_error {m next : WordMachine} {image : Image} {fault : Fault}
    (h : m.load image = (.error fault, next)) : next = m := by
  unfold load at h
  split at h
  · simp at h
  · exact (Prod.mk.inj h).2.symm

def registerNames : Vector String 4 := #v["r0", "r1", "r2", "r3"]

def registerIndex? (name : String) : Option (Fin 4) := registerNames.finIdxOf? name

def readRegister (m : WordMachine) (name : String) : Word :=
  match registerIndex? name with
  | some r => m.registers[r]
  | none => 0

def writeRegister (m : WordMachine) (name : String) (value : Word) : WordMachine :=
  match registerIndex? name with
  | some r => { m with registers := m.registers.set r value }
  | none => m

/-- The word at an address. There is none beyond the memory. -/
def readMemory? (m : WordMachine) (addr : Address) : Option Word := m.memory[addr.toNat]?

def readMemory (m : WordMachine) (addr : Address) : Word := (m.readMemory? addr).getD 0

def writeMemory (m : WordMachine) (addr : Address) (value : Word) : WordMachine :=
  { m with memory := m.memory.setIfInBounds addr.toNat value }

instance : Engine WordMachine Fault where
  extent _ := extent
  load := load
  advance := advance
  isHalted := halted
  pc := pc
  hasRegister _ name := (registerIndex? name).isSome
  readRegister := readRegister
  writeRegister := writeRegister
  memorySize _ := capacity.toUInt32
  readMemory := readMemory
  writeMemory := writeMemory

/-- Reads that come to no word beyond the memory. -/
def reads? : Reads WordMachine Option where
  register m name := some (m.readRegister name)
  memory := readMemory?

/-- The words of memory that are not zero, in ascending order of address. -/
def nonzeroWords (m : WordMachine) : List (Address × Word) :=
  m.memory.toList.zipIdx.filterMap fun slot =>
    if slot.1 = 0 then none else some (slot.2.toUInt32, slot.1)

end WordMachine
end Stepper
