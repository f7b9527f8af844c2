import Stepper.Proofs.Machine.Counting

/-!
What the next attempt of the word machine depends on. Whether it faults is told by the program
counter and the word there, since an instruction that cannot be executed cannot be executed by any
machine. What it does to a word of memory is told by the instruction alone: only a store to this
word changes it.
-/
namespace Stepper.WordMachine
open Machine

/-- The opcode to blame, if there is no machine that executes the instruction. -/
def Instruction.culprit? : Instruction → Option Word
  | .store _ slot => if slot.toNat < capacity then none else some storeOpcode
  | .illegal code => some code
  | .halt | .nop | .increment _ | .jump _ => none

/-- Where execution goes on behind an instruction. -/
def Instruction.next (pc : Address) : Instruction → Address
  | .halt | .illegal _ => pc
  | .jump target => target
  | .nop | .increment _ | .store .. => pc + 1

/-- What an instruction adds to a register. -/
def Instruction.gain (r : Fin 4) : Instruction → Word
  | .increment counted => if counted = r then 1 else 0
  | .halt | .nop | .jump _ | .store .. | .illegal _ => 0

/-- The fault that the next attempt ends with, if it is to fault. -/
def nextFault? (m : WordMachine) : Option Fault :=
  match m.memory[m.pc.toNat]? with
  | none => some (.pcOutOfBounds m.pc)
  | some word => (Instruction.decode word).culprit?.map (.illegalOpcode · m.pc)

/-- The next attempt is one to write to this address. -/
def StoresTo (m : WordMachine) (addr : Address) : Prop := ∃ r, m.fetch = .ok (.store r addr)

instance (m : WordMachine) (addr : Address) : Decidable (m.StoresTo addr) :=
  inferInstanceAs (Decidable (∃ r, m.fetch = .ok (.store r addr)))

variable {m other next : WordMachine} {instruction : Instruction} {addr : Address} {word : Word}
  {fault : Fault}

/-! Faults. -/

theorem fetch_of_word (found : m.memory[m.pc.toNat]? = some word) :
    m.fetch = .ok (Instruction.decode word) := by
  obtain ⟨within, rfl⟩ := Vector.getElem?_eq_some_iff.1 found
  exact dif_pos within

theorem fetch_of_outside (outside : capacity ≤ m.pc.toNat) :
    m.fetch = .error (.pcOutOfBounds m.pc) :=
  dif_neg (Nat.not_lt.2 outside)

theorem exists_word_of_fetch (fetched : m.fetch = .ok instruction) :
    ∃ word, m.memory[m.pc.toNat]? = some word ∧ Instruction.decode word = instruction := by
  cases found : m.memory[m.pc.toNat]? with
  | none =>
    rw [fetch_of_outside (Vector.getElem?_eq_none_iff.1 found)] at fetched
    cases fetched
  | some word =>
    rw [fetch_of_word found] at fetched
    exact ⟨word, rfl, Except.ok.inj fetched⟩

theorem fetch_congr (pc : other.pc = m.pc)
    (word : other.memory[m.pc.toNat]? = m.memory[m.pc.toNat]?) : other.fetch = m.fetch := by
  cases found : m.memory[m.pc.toNat]? with
  | some there =>
    rw [fetch_of_word found]
    apply fetch_of_word
    rw [pc, word, found]
  | none =>
    have outside := Vector.getElem?_eq_none_iff.1 found
    rw [fetch_of_outside outside, ← pc]
    apply fetch_of_outside
    rw [pc]
    exact outside

theorem nextFault?_congr (pc : other.pc = m.pc)
    (word : other.memory[m.pc.toNat]? = m.memory[m.pc.toNat]?) :
    other.nextFault? = m.nextFault? := by
  unfold nextFault?
  rw [pc, word]

theorem execute_of_culprit {code : Word} (blamed : instruction.culprit? = some code) :
    m.execute instruction = .error (.illegalOpcode code m.pc) := by
  cases instruction with
  | store r slot =>
    obtain ⟨outside, rfl⟩ : ¬ slot.toNat < capacity ∧ storeOpcode = code := by
      simpa [Instruction.culprit?] using blamed
    exact dif_neg outside
  | illegal other =>
    rw [← Option.some.inj blamed]
    rfl
  | halt | nop | increment | jump => cases blamed

theorem exists_execute_of_no_culprit (blameless : instruction.culprit? = none) :
    ∃ next, m.execute instruction = .ok next := by
  cases instruction with
  | store r slot =>
    have within : slot.toNat < capacity := by simpa [Instruction.culprit?] using blameless
    exact ⟨_, dif_pos within⟩
  | illegal => cases blameless
  | halt | nop | increment | jump => exact ⟨_, rfl⟩

theorem advance_of_fault (refused : m.fetch.bind m.execute = .error fault) :
    Engine.advance m = (.error fault, m) := by
  change m.advance = _
  rw [advance, refused]

theorem advance_of_execute (fetched : m.fetch = .ok instruction)
    (done : m.execute instruction = .ok next) :
    Engine.advance m = (.ok (), { next with steps := next.steps + 1 }) := by
  have executed : m.fetch.bind m.execute = .ok next := by
    rw [fetched]
    exact done
  change m.advance = _
  rw [advance, executed]

theorem advance_of_nextFault? (faults : m.nextFault? = some fault) :
    Engine.advance m = (.error fault, m) := by
  apply advance_of_fault
  unfold nextFault? at faults
  split at faults
  · next outside =>
    rw [fetch_of_outside (Vector.getElem?_eq_none_iff.1 outside), ← Option.some.inj faults]
    rfl
  · next word found =>
    obtain ⟨code, blamed, rfl⟩ := Option.map_eq_some_iff.1 faults
    rw [fetch_of_word found]
    exact execute_of_culprit blamed

theorem executed_of_nextFault? (fine : m.nextFault? = none) :
    (Engine.advance m).1 = .ok () := by
  unfold nextFault? at fine
  split at fine
  · cases fine
  · next word found =>
    obtain ⟨next, done⟩ := exists_execute_of_no_culprit (m := m) (Option.map_eq_none_iff.1 fine)
    rw [advance_of_execute (fetch_of_word found) done]

theorem nextFault?_eq_some_iff :
    m.nextFault? = some fault ↔ (Engine.advance m).1 = .error fault := by
  constructor
  · intro faults
    rw [advance_of_nextFault? faults]
  · intro faulted
    cases told : m.nextFault? with
    | none => cases (executed_of_nextFault? told).symm.trans faulted
    | some other =>
      rw [advance_of_nextFault? told] at faulted
      cases faulted
      rfl

theorem nextFault?_eq_none_iff : m.nextFault? = none ↔ (Engine.advance m).1 = .ok () := by
  refine ⟨executed_of_nextFault?, fun executed => ?_⟩
  cases told : m.nextFault? with
  | none => rfl
  | some fault => cases (nextFault?_eq_some_iff.1 told).symm.trans executed

theorem pc_lt_of_executed (executed : (Engine.advance m).1 = .ok ()) : m.pc.toNat < capacity := by
  obtain ⟨instruction, -, fetched, -⟩ := exists_execute executed
  obtain ⟨word, found, -⟩ := exists_word_of_fetch fetched
  exact (Vector.getElem?_eq_some_iff.1 found).1

/-- Behind a word of memory there is always another address. -/
theorem toNat_add_one_of_lt {addr : Address} (within : addr.toNat < capacity) :
    (addr + 1).toNat = addr.toNat + 1 := by
  have small : addr.toNat < 64 := within
  rw [UInt32.toNat_add, UInt32.toNat_one]
  omega

/-! Effects. -/

theorem pc_execute (done : m.execute instruction = .ok next) :
    next.pc = instruction.next m.pc := by
  cases instruction with
  | store r slot =>
    simp only [execute] at done
    split at done <;> cases done
    rfl
  | illegal => cases done
  | halt | nop | increment | jump =>
    cases done
    rfl

theorem halted_execute (done : m.execute instruction = .ok next) :
    next.halted = (decide (instruction = .halt) || m.halted) := by
  cases instruction with
  | store r slot =>
    simp only [execute] at done
    split at done <;> cases done
    rfl
  | illegal => cases done
  | halt | nop | increment | jump =>
    cases done
    rfl

theorem getElem_registers_execute (done : m.execute instruction = .ok next) {i : Nat}
    (within : i < 4) :
    next.registers[i] = m.registers[i] + instruction.gain ⟨i, within⟩ := by
  cases instruction with
  | increment counted =>
    cases done
    by_cases same : counted.val = i
    · subst same
      simp [Instruction.gain]
    · have apart : counted ≠ ⟨i, within⟩ := fun equal => same (congrArg Fin.val equal)
      simp [Instruction.gain, apart, Vector.getElem_set_ne _ _ same]
  | store _ slot =>
    simp only [execute] at done
    split at done <;> cases done
    exact (UInt32.add_zero _).symm
  | illegal => cases done
  | halt | nop | jump =>
    cases done
    exact (UInt32.add_zero _).symm

theorem memory_execute_of_not_store (done : m.execute instruction = .ok next)
    (storeless : ∀ r slot, instruction ≠ .store r slot) : next.memory = m.memory := by
  cases instruction with
  | store r slot => exact absurd rfl (storeless r slot)
  | illegal => cases done
  | halt | nop | increment | jump =>
    cases done
    rfl

theorem getElem?_memory_execute (done : m.execute instruction = .ok next)
    (elsewhere : ∀ r, instruction ≠ .store r addr) :
    next.memory[addr.toNat]? = m.memory[addr.toNat]? := by
  by_cases stores : ∃ r slot, instruction = .store r slot
  · obtain ⟨r, slot, rfl⟩ := stores
    have apart : slot.toNat ≠ addr.toNat := fun same =>
      elsewhere r (by rw [UInt32.toNat_inj.1 same])
    simp only [execute] at done
    split at done <;> cases done
    exact Vector.getElem?_set_ne ‹_› apart
  · rw [memory_execute_of_not_store done fun r slot same => stores ⟨r, slot, same⟩]

theorem pc_advance (executed : (Engine.advance m).1 = .ok ())
    (fetched : m.fetch = .ok instruction) :
    (Engine.advance m).2.pc = instruction.next m.pc := by
  obtain ⟨known, next, found, done, counted⟩ := exists_execute executed
  obtain rfl : known = instruction := Except.ok.inj (found.symm.trans fetched)
  rw [counted, ← pc_execute done]

theorem halted_advance (executed : (Engine.advance m).1 = .ok ())
    (fetched : m.fetch = .ok instruction) :
    (Engine.advance m).2.halted = (decide (instruction = .halt) || m.halted) := by
  obtain ⟨known, next, found, done, counted⟩ := exists_execute executed
  obtain rfl : known = instruction := Except.ok.inj (found.symm.trans fetched)
  rw [counted, ← halted_execute done]

theorem getElem_registers_advance (executed : (Engine.advance m).1 = .ok ())
    (fetched : m.fetch = .ok instruction) {i : Nat} (within : i < 4) :
    (Engine.advance m).2.registers[i] = m.registers[i] + instruction.gain ⟨i, within⟩ := by
  obtain ⟨known, next, found, done, counted⟩ := exists_execute executed
  obtain rfl : known = instruction := Except.ok.inj (found.symm.trans fetched)
  rw [counted, ← getElem_registers_execute done within]

theorem memory_advance_of_not_store (executed : (Engine.advance m).1 = .ok ())
    (fetched : m.fetch = .ok instruction) (storeless : ∀ r slot, instruction ≠ .store r slot) :
    (Engine.advance m).2.memory = m.memory := by
  obtain ⟨known, next, found, done, counted⟩ := exists_execute executed
  obtain rfl : known = instruction := Except.ok.inj (found.symm.trans fetched)
  rw [counted, ← memory_execute_of_not_store done storeless]

theorem getElem?_memory_advance (elsewhere : ¬ m.StoresTo addr) :
    (Engine.advance m).2.memory[addr.toNat]? = m.memory[addr.toNat]? := by
  cases answer : (Engine.advance m).1 with
  | error fault => rw [advance_of_nextFault? (nextFault?_eq_some_iff.2 answer)]
  | ok _ =>
    obtain ⟨instruction, next, fetched, done, counted⟩ := exists_execute answer
    have stores : ∀ r, instruction ≠ .store r addr := fun r same =>
      elsewhere ⟨r, by rw [fetched, same]⟩
    rw [counted, ← getElem?_memory_execute done stores]

theorem getElem?_memory_advance_of_store {r : Fin 4} (fetched : m.fetch = .ok (.store r addr))
    (within : addr.toNat < capacity) :
    (Engine.advance m).2.memory[addr.toNat]? = some m.registers[r] := by
  have moves := advance_of_execute fetched (dif_pos within)
  rw [moves]
  exact Vector.getElem?_set_self within

theorem getElem?_memory_after {n : Nat}
    (elsewhere : ∀ i < n, ¬ (after m i).StoresTo addr) :
    (after m n).memory[addr.toNat]? = m.memory[addr.toNat]? := by
  induction n with
  | zero => rfl
  | succ n ih =>
    rw [after_succ, getElem?_memory_advance (elsewhere n n.lt_succ_self)]
    exact ih fun i lt => elsewhere i (Nat.lt_succ_of_lt lt)

theorem readMemory_after {n : Nat} (elsewhere : ∀ i < n, ¬ (after m i).StoresTo addr) :
    (after m n).readMemory addr = m.readMemory addr := by
  unfold readMemory readMemory?
  rw [getElem?_memory_after elsewhere]

end Stepper.WordMachine
