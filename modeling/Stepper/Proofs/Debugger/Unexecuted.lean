import Stepper.Proofs.Debugger.Inspecting
import Stepper.Proofs.Debugger.Resemblance

/-!
A word that is not executed is data, and the program of the word machine never reads data: it only
stores to memory. So two machines that differ in such a word run alike and differ in nothing else
behind the run. The difference goes when the program stores to the word, and stays if it does not.
-/
namespace Stepper
open Machine
open WordMachine (capacity)

namespace WordMachine

/-- The machines differ in the word at this address at most. -/
structure SameBut (addr : Address) (m other : WordMachine) : Prop where
  memory : ∀ i, i ≠ addr.toNat → m.memory[i]? = other.memory[i]?
  registers : m.registers = other.registers
  pc : m.pc = other.pc
  halted : m.halted = other.halted
  steps : m.steps = other.steps

variable {addr : Address} {m other next : WordMachine} {instruction : Instruction}

theorem sameBut_writeMemory (m : WordMachine) (addr : Address) (value : Word) :
    SameBut addr (m.writeMemory addr value) m where
  memory _ elsewhere := Vector.getElem?_setIfInBounds_ne elsewhere.symm
  registers := rfl
  pc := rfl
  halted := rfl
  steps := rfl

theorem SameBut.eq_of_word (same : SameBut addr m other)
    (word : m.memory[addr.toNat]? = other.memory[addr.toNat]?) : m = other := by
  obtain ⟨memory, registers, pc, halted, steps⟩ := m
  obtain ⟨otherMemory, otherRegisters, otherPc, otherHalted, otherSteps⟩ := other
  obtain ⟨elsewhere, rfl, rfl, rfl, rfl⟩ := same
  have all : memory = otherMemory := by
    apply Vector.ext
    intro i inside
    have found : memory[i]? = otherMemory[i]? := by
      by_cases here : i = addr.toNat
      · rw [here]
        exact word
      · exact elsewhere i here
    simpa [inside] using found
  rw [all]

theorem SameBut.fetch_eq (same : SameBut addr m other) (unexecuted : other.pc ≠ addr) :
    m.fetch = other.fetch :=
  fetch_congr same.pc (same.memory _ fun here => unexecuted (UInt32.toNat_inj.1 here))

theorem SameBut.nextFault?_eq (same : SameBut addr m other) (unexecuted : other.pc ≠ addr) :
    m.nextFault? = other.nextFault? :=
  nextFault?_congr same.pc (same.memory _ fun here => unexecuted (UInt32.toNat_inj.1 here))

/-- Both machines store the same register to the same word, and so it is the same then. -/
theorem SameBut.store (same : SameBut addr m other) (r : Fin 4) {slot : Nat}
    (within : slot < capacity) (pc : Address) :
    SameBut addr { m with memory := m.memory.set slot m.registers[r], pc := pc }
      { other with memory := other.memory.set slot other.registers[r], pc := pc } := by
  refine { same with memory := fun i elsewhere => ?_, pc := rfl }
  simp only [Vector.getElem?_set, same.registers, same.memory i elsewhere]

theorem SameBut.execute (same : SameBut addr m other)
    (done : other.execute instruction = .ok next) :
    ∃ nextToo, m.execute instruction = .ok nextToo ∧ SameBut addr nextToo next := by
  have pc := same.pc
  cases instruction with
  | halt =>
    cases done
    exact ⟨_, rfl, { same with halted := rfl }⟩
  | nop =>
    cases done
    exact ⟨_, rfl, { same with pc := by rw [pc] }⟩
  | increment r =>
    cases done
    refine ⟨_, rfl, { same with registers := ?_, pc := by rw [pc] }⟩
    rw [same.registers]
  | jump target =>
    cases done
    exact ⟨_, rfl, { same with pc := rfl }⟩
  | store r slot =>
    simp only [WordMachine.execute] at done
    split at done
    · next within =>
      cases done
      refine ⟨_, dif_pos within, ?_⟩
      rw [pc]
      exact same.store r within _
    · cases done
  | illegal => cases done

theorem SameBut.advance (same : SameBut addr m other) (unexecuted : other.pc ≠ addr) :
    Resembles m other ∧ SameBut addr (Engine.advance m).2 (Engine.advance other).2 := by
  cases answer : (Engine.advance other).1 with
  | error fault =>
    have told := nextFault?_eq_some_iff.2 answer
    have toldToo := (same.nextFault?_eq unexecuted).trans told
    obtain ⟨resembles, staysToo, stays⟩ :=
      resembles_of_nextFault? told toldToo same.pc same.halted
    rw [stays, staysToo]
    exact ⟨resembles, same⟩
  | ok _ =>
    obtain ⟨instruction, next, fetched, done, -⟩ := exists_execute answer
    obtain ⟨nextToo, doneToo, sameThen⟩ := same.execute done
    have moves := advance_of_execute fetched done
    have movesToo := advance_of_execute ((same.fetch_eq unexecuted).trans fetched) doneToo
    refine ⟨⟨?_, ?_, ?_⟩, ?_⟩ <;> rw [moves, movesToo]
    · exact sameThen.halted
    · exact sameThen.pc
    · exact { sameThen with steps := congrArg (· + 1) sameThen.steps }

theorem SameBut.after (same : SameBut addr m other) {n : Nat}
    (unexecuted : ∀ i < n, (after other i).pc ≠ addr) :
    SameBut addr (after m n) (after other n) := by
  induction n with
  | zero => exact same
  | succ n ih =>
    have before := ih fun i lt => unexecuted i (Nat.lt_succ_of_lt lt)
    exact (before.advance (unexecuted n n.lt_succ_self)).2

/-- A store to the word makes the two machines one. -/
theorem SameBut.advance_eq (same : SameBut addr m other) (unexecuted : other.pc ≠ addr)
    (within : addr.toNat < capacity) (stores : other.StoresTo addr) :
    (Engine.advance m).2 = (Engine.advance other).2 := by
  obtain ⟨r, fetched⟩ := stores
  have fetchedToo := (same.fetch_eq unexecuted).trans fetched
  apply (same.advance unexecuted).2.eq_of_word
  rw [getElem?_memory_advance_of_store fetched within,
    getElem?_memory_advance_of_store fetchedToo within, same.registers]

theorem SameBut.after_eq (same : SameBut addr m other) {n : Nat} (within : addr.toNat < capacity)
    (unexecuted : ∀ i < n, (Machine.after other i).pc ≠ addr)
    (stores : ∃ i < n, (Machine.after other i).StoresTo addr) :
    Machine.after m n = Machine.after other n := by
  obtain ⟨i, before, stores⟩ := stores
  have differ := same.after fun j lt => unexecuted j (lt.trans before)
  have meet : Machine.after m (i + 1) = Machine.after other (i + 1) :=
    differ.advance_eq (unexecuted i before) within stores
  obtain ⟨rest, rfl⟩ := Nat.exists_eq_add_of_le (Nat.succ_le_of_lt before)
  rw [← after_after, ← after_after, meet]

theorem SameBut.stores_iff (same : SameBut addr m other) (unexecuted : other.pc ≠ addr) :
    m.StoresTo addr ↔ other.StoresTo addr := by
  unfold StoresTo
  rw [same.fetch_eq unexecuted]

end WordMachine

namespace Debugger
open WordMachine (SameBut)

section Attempts

variable {d : Debugger WordMachine} {addr : Address} {n : Nat}

/-- The run behind a write makes the attempts of the run without it. -/
theorem run_of_write (within : addr.toNat < capacity) (value : Word)
    (made : d.recording.run.calls = Recorded.attempts d.engine n)
    (away : ∀ i < n, (after d.engine i).pc ≠ addr) :
    let written := (d.writeMemory addr value).debugger.run
    written.result = d.run.result ∧
      written.debugger =
        { d.run.debugger with engine := after (d.engine.writeMemory addr value) n } := by
  have same := WordMachine.sameBut_writeMemory d.engine addr value
  rw [writeMemory_eq within]
  apply run_of_resembles made
  intro i lt
  have before := same.after fun j earlier => away j (earlier.trans lt)
  exact (before.advance (away i lt)).1

theorem readMemory_of_stored (within : addr.toNat < capacity) (value : Word)
    (away : ∀ i < n, (after d.engine i).pc ≠ addr)
    (stored : ∃ i < n, (after d.engine i).StoresTo addr) :
    (after (d.engine.writeMemory addr value) n).readMemory addr =
      (after d.engine n).readMemory addr := by
  have same := WordMachine.sameBut_writeMemory d.engine addr value
  rw [same.after_eq within away stored]

theorem readMemory_of_unstored (within : addr.toNat < capacity) (value : Word)
    (away : ∀ i < n, (after d.engine i).pc ≠ addr)
    (unstored : ∀ i < n, ¬ (after d.engine i).StoresTo addr) :
    (after (d.engine.writeMemory addr value) n).readMemory addr = value ∧
      (after d.engine n).readMemory addr = d.engine.readMemory addr := by
  have same := WordMachine.sameBut_writeMemory d.engine addr value
  have unstoredToo : ∀ i < n, ¬ (after (d.engine.writeMemory addr value) i).StoresTo addr := by
    intro i lt stores
    have before := same.after fun j earlier => away j (earlier.trans lt)
    exact unstored i lt ((before.stores_iff (away i lt)).1 stores)
  rw [WordMachine.readMemory_after unstored, WordMachine.readMemory_after unstoredToo]
  exact ⟨d.engine.readMemory_writeMemory within value, rfl⟩

end Attempts

/-- The conditions are on the attempts of the run as it is without the write. A store that is
attempted is executed, since the address lies in memory. -/
theorem unexecuted_word_cannot_disturb (d : Debugger WordMachine) (addr : Address) (value : Word)
    (within : addr.toNat < 64)
    (unexecuted : ∀ call ∈ d.recording.run.calls, call.machine.pc ≠ addr) :
    let poke := d.writeMemory addr value
    let written := poke.debugger.run
    let plain := d.run
    poke.result = .ok () ∧ written.result = plain.result ∧
      written.debugger.status = plain.debugger.status ∧
      written.debugger.symbols = plain.debugger.symbols ∧
      written.debugger.breakpoints = plain.debugger.breakpoints ∧
      written.debugger.config = plain.debugger.config ∧
      SameBut addr written.debugger.engine plain.debugger.engine ∧
      ((∃ call ∈ d.recording.run.calls, call.machine.StoresTo addr) →
        written.debugger.readMemory addr = plain.debugger.readMemory addr) ∧
      ((∀ call ∈ d.recording.run.calls, ¬ call.machine.StoresTo addr) →
        written.debugger.readMemory addr = .ok value ∧
          plain.debugger.readMemory addr = d.readMemory addr) := by
  intro poke written plain
  obtain ⟨n, made, behind⟩ := exists_attempts d
  have attempted (i : Nat) (lt : i < n) : ⟨.advance, after d.engine i⟩ ∈ d.recording.run.calls := by
    rw [made]
    exact Recorded.mem_attempts.2 ⟨i, lt, rfl⟩
  have away : ∀ i < n, (after d.engine i).pc ≠ addr := fun i lt => unexecuted _ (attempted i lt)
  have same := WordMachine.sameBut_writeMemory d.engine addr value
  obtain ⟨result, debugger⟩ := run_of_write within value made away
  have ran : written.debugger = _ := debugger
  refine ⟨writeMemory_of_lt within value, result, by rw [ran], by rw [ran], by rw [ran],
    by rw [ran], ?_, ?_, ?_⟩
  · rw [ran, behind]
    exact same.after away
  · rintro ⟨call, listed, stores⟩
    rw [made] at listed
    obtain ⟨i, lt, rfl⟩ := Recorded.mem_attempts.1 listed
    rw [readMemory_of_lt within, readMemory_of_lt within, ran, behind,
      readMemory_of_stored within value away ⟨i, lt, stores⟩]
  · intro unstored
    obtain ⟨put, kept⟩ := readMemory_of_unstored within value away fun i lt =>
      unstored _ (attempted i lt)
    rw [readMemory_of_lt within, readMemory_of_lt within, readMemory_of_lt within, ran, behind, put,
      kept]
    exact ⟨rfl, rfl⟩

/-- A program that counts, stores the count at address 5 and halts. -/
def storesCount : Debugger WordMachine where
  engine := .start [0x02000000, 0x04000005, 0]
  config := ⟨5⟩
  symbols := .empty
  breakpoints := .empty
  status := .ready

theorem storesCount_is_undisturbed :
    (∀ call ∈ storesCount.recording.run.calls, call.machine.pc ≠ 5) ∧
      (∀ call ∈ storesCount.recording.run.calls, call.machine.pc ≠ 6) ∧
      storesCount.run.result = .ok .halted ∧
      (storesCount.writeMemory 5 7).debugger.run.result = storesCount.run.result ∧
      (storesCount.writeMemory 5 7).debugger.run.debugger.readMemory 5 =
        storesCount.run.debugger.readMemory 5 ∧
      (storesCount.writeMemory 6 7).debugger.run.result = storesCount.run.result ∧
      (storesCount.writeMemory 6 7).debugger.run.debugger.readMemory 6 = .ok 7 := by
  have away5 : ∀ call ∈ storesCount.recording.run.calls, call.machine.pc ≠ 5 := by decide
  have away6 : ∀ call ∈ storesCount.recording.run.calls, call.machine.pc ≠ 6 := by decide
  obtain ⟨_, result5, _, _, _, _, _, stored, _⟩ :=
    unexecuted_word_cannot_disturb storesCount 5 7 (by decide) away5
  obtain ⟨_, result6, _, _, _, _, _, _, unstored⟩ :=
    unexecuted_word_cannot_disturb storesCount 6 7 (by decide) away6
  exact ⟨away5, away6, by decide, result5, stored (by decide), result6, (unstored (by decide)).1⟩

end Debugger
end Stepper
