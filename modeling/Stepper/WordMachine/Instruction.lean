import Stepper.Address

/-!
Instructions of the word machine. An instruction is one word: the opcode in bits 24 to 31, a
register in bits 16 and 17, an operand in bits 0 to 15. Every word is an instruction, if only an
illegal one.
-/
namespace Stepper.WordMachine

inductive Instruction where
  | halt
  | nop
  | increment (register : Fin 4)
  | jump (target : Address)
  | store (register : Fin 4) (slot : Address)
  | illegal (opcode : Word)
deriving DecidableEq

def opcode (word : Word) : Word := word >>> 24

def registerField (word : Word) : Fin 4 := Fin.ofNat 4 (word >>> 16).toNat

def operand (word : Word) : Word := word &&& 0xFFFF

theorem operand_lt (word : Word) : (operand word).toNat < 0x10000 := by
  simp only [operand, UInt32.toNat_and]
  exact Nat.lt_of_le_of_lt Nat.and_le_right (by decide)

def storeOpcode : Word := 4

def Instruction.decode (word : Word) : Instruction :=
  if opcode word = 0 then .halt
  else if opcode word = 1 then .nop
  else if opcode word = 2 then .increment (registerField word)
  else if opcode word = 3 then .jump (operand word)
  else if opcode word = storeOpcode then .store (registerField word) (operand word)
  else .illegal (opcode word)

end Stepper.WordMachine
