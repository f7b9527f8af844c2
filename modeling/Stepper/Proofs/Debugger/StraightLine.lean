import Stepper.Proofs.Debugger.Verdict
import Stepper.Proofs.Machine.Fetching
import Stepper.Proofs.Session.Reloading

/-!
Straight-line programs. Execution passes the words that do nothing and those that increment a
register, one behind the other, and the words it has passed tell all that has become of the machine.
The first word of another kind ends the program, or the end of memory does.
-/
namespace Stepper
open Machine

namespace WordMachine

variable {m : WordMachine} {image : Image} {word : Word} {n count : Nat}

/-- Behind these words execution goes on at the next one, with the same memory. -/
def FallsThrough (word : Word) : Prop := opcode word = 1 ∨ opcode word = 2

instance (word : Word) : Decidable (FallsThrough word) :=
  inferInstanceAs (Decidable (_ ∨ _))

def Increments (r : Fin 4) (word : Word) : Prop := opcode word = 2 ∧ registerField word = r

instance (r : Fin 4) (word : Word) : Decidable (Increments r word) :=
  inferInstanceAs (Decidable (_ ∧ _))

/-- How many of the first `n` words of an image increment a register. -/
def incrementCount (image : Image) (n : Nat) (r : Fin 4) : Nat :=
  (List.range n).countP fun i => Increments r (paddedWord image i)

/-- The machine has got to word `n` of a program it has not changed, and has counted up the
registers that the words before it name. -/
structure StandsAt (image : Image) (n count : Nat) (m : WordMachine) : Prop where
  pc : m.pc.toNat = n
  steps : m.steps.toNat = count
  registers : ∀ r : Fin 4, m.registers[r].toNat = incrementCount image n r
  memory : ∀ i < capacity, m.memory[i]? = some (paddedWord image i)

theorem decode_of_halt (halt : opcode word = 0) : Instruction.decode word = .halt := by
  simp [Instruction.decode, halt]

theorem decode_of_illegal (illegal : 4 < opcode word) :
    Instruction.decode word = .illegal (opcode word) := by
  have beyond (code : Word) (le : code ≤ 4) : opcode word ≠ code :=
    fun same => UInt32.not_lt.2 le (same ▸ illegal)
  simp [Instruction.decode, storeOpcode, beyond]

theorem FallsThrough.decode_cases (through : FallsThrough word) :
    Instruction.decode word = .nop ∨ ∃ r, Instruction.decode word = .increment r := by
  rcases through with nop | increment
  · exact .inl (by simp [Instruction.decode, nop])
  · exact .inr ⟨registerField word, by simp [Instruction.decode, increment]⟩

theorem gain_decode (r : Fin 4) (word : Word) :
    (Instruction.decode word).gain r = if Increments r word then 1 else 0 := by
  unfold Instruction.decode
  repeat' split
  all_goals simp_all [Instruction.gain, Increments, storeOpcode]

theorem incrementCount_succ (image : Image) (n : Nat) (r : Fin 4) :
    incrementCount image (n + 1) r =
      incrementCount image n r + if Increments r (paddedWord image n) then 1 else 0 := by
  unfold incrementCount
  rw [List.range_succ, List.countP_append, List.countP_singleton]
  simp

theorem incrementCount_le (image : Image) (n : Nat) (r : Fin 4) : incrementCount image n r ≤ n := by
  unfold incrementCount
  exact List.countP_le_length.trans List.length_range.le

theorem StandsAt.fetch (stands : StandsAt image n count m) (within : n < capacity) :
    m.fetch = .ok (Instruction.decode (paddedWord image n)) := by
  apply fetch_of_word
  rw [stands.pc]
  exact stands.memory n within

theorem StandsAt.counts (stands : StandsAt image n n m) (within : n < capacity)
    (executed : (Engine.advance m).1 = .ok ()) : (Engine.advance m).2.steps.toNat = n + 1 := by
  have small : n < 64 := within
  rw [steps_advance executed, UInt64.toNat_add, stands.steps, UInt64.toNat_one]
  omega

theorem StandsAt.advance (stands : StandsAt image n n m) (within : n < capacity)
    (through : FallsThrough (paddedWord image n)) :
    (Engine.advance m).1 = .ok () ∧ (Engine.advance m).2.halted = m.halted ∧
      StandsAt image (n + 1) (n + 1) (Engine.advance m).2 := by
  have small : n < 64 := within
  have fetched := stands.fetch within
  have gain (r : Fin 4) := gain_decode r (paddedWord image n)
  have kind := through.decode_cases
  generalize Instruction.decode (paddedWord image n) = instruction at fetched gain kind
  have executed : (Engine.advance m).1 = .ok () := by
    rcases kind with rfl | ⟨r, rfl⟩ <;> rw [advance_of_execute fetched rfl]
  have next : instruction.next m.pc = m.pc + 1 := by rcases kind with rfl | ⟨r, rfl⟩ <;> rfl
  have goesOn : instruction ≠ .halt := by
    rcases kind with rfl | ⟨r, rfl⟩ <;> exact Instruction.noConfusion
  have storeless (r : Fin 4) (slot : Address) : instruction ≠ .store r slot := by
    rcases kind with rfl | ⟨r, rfl⟩ <;> exact Instruction.noConfusion
  refine ⟨executed, ?_, ?_, stands.counts within executed, fun r => ?_, ?_⟩
  · simp [halted_advance executed fetched, goesOn]
  · rw [pc_advance executed fetched, next, UInt32.toNat_add, stands.pc, UInt32.toNat_one]
    omega
  · have before := incrementCount_le image n r
    have gained : (Engine.advance m).2.registers[r] = m.registers[r] + instruction.gain r :=
      getElem_registers_advance executed fetched r.isLt
    rw [gained, gain, UInt32.toNat_add, stands.registers, incrementCount_succ]
    split <;> simp only [UInt32.toNat_one, UInt32.toNat_zero] <;> omega
  · rw [memory_advance_of_not_store executed fetched storeless]
    exact stands.memory

theorem standsAt_start (aligned : 4 ∣ image.length) : StandsAt image 0 0 (start (words image)) where
  pc := rfl
  steps := rfl
  registers r := by simp [start, incrementCount]
  memory i within := by rw [getElem?_memory_start _ within, getD_words aligned]

theorem standsAt_after (aligned : 4 ∣ image.length) (within : n ≤ capacity)
    (through : ∀ j < n, FallsThrough (paddedWord image j)) :
    StandsAt image n n (after (start (words image)) n) ∧
      (after (start (words image)) n).halted = false := by
  induction n with
  | zero => exact ⟨standsAt_start aligned, rfl⟩
  | succ n ih =>
    obtain ⟨stands, running⟩ := ih (Nat.le_of_succ_le within) fun j lt =>
      through j (Nat.lt_succ_of_lt lt)
    obtain ⟨-, still, next⟩ := stands.advance within (through n n.lt_succ_self)
    exact ⟨next, still.trans running⟩

theorem quiet_start (aligned : 4 ∣ image.length) (within : n ≤ capacity)
    (through : ∀ j < n, FallsThrough (paddedWord image j)) :
    Quiet .empty (start (words image)) n := by
  intro i lt
  obtain ⟨stands, running⟩ := standsAt_after aligned (lt.le.trans within) fun j before =>
    through j (before.trans lt)
  obtain ⟨executed, still, -⟩ := stands.advance (Nat.lt_of_lt_of_le lt within) (through i lt)
  exact not_stops_iff.2 ⟨executed, still.trans running, rfl⟩

/-! The three ends of a straight-line program. -/

theorem StandsAt.halts (stands : StandsAt image n n m) (within : n < capacity)
    (halt : opcode (paddedWord image n) = 0) :
    Ends .empty m .halt ∧ StandsAt image n (n + 1) (Engine.advance m).2 := by
  have fetched := stands.fetch within
  rw [decode_of_halt halt] at fetched
  have moves := advance_of_execute fetched rfl
  have executed : (Engine.advance m).1 = .ok () := by rw [moves]
  have counted := stands.counts within executed
  rw [moves] at counted
  refine ⟨.halt executed ?_, ?_⟩ <;> rw [moves]
  · rfl
  · exact ⟨stands.pc, counted, stands.registers, stands.memory⟩

theorem StandsAt.faults {fault : Fault} (stands : StandsAt image n n m)
    (told : m.nextFault? = some fault) :
    Ends .empty m (.fault fault) ∧ StandsAt image n n (Engine.advance m).2 := by
  have stays := advance_of_nextFault? told
  refine ⟨.fault ?_, ?_⟩
  · rw [stays]
  · rw [stays]
    exact stands

theorem StandsAt.nextFault?_of_illegal (stands : StandsAt image n count m) (within : n < capacity)
    (illegal : 4 < opcode (paddedWord image n)) :
    m.nextFault? = some (.illegalOpcode (opcode (paddedWord image n)) n.toUInt32) := by
  have found := stands.memory n within
  have pc : m.pc = n.toUInt32 := by simp [← stands.pc]
  unfold nextFault?
  rw [stands.pc, found, pc]
  dsimp only
  rw [decode_of_illegal illegal]
  rfl

theorem StandsAt.nextFault?_of_outside (stands : StandsAt image capacity count m) :
    m.nextFault? = some (.pcOutOfBounds 0x40) := by
  have outside : m.pc = 0x40 := UInt32.toNat_inj.1 stands.pc
  unfold nextFault?
  rw [outside, Vector.getElem?_eq_none (by decide)]

end WordMachine

namespace Debugger
open WordMachine (FallsThrough StandsAt opcode paddedWord capacity)

/-- A run passes the words that fall through. What is sure to end it behind these does end it. -/
theorem run_of_fallsThrough {d : Debugger WordMachine} {image : Image} {symbols : SymbolTable}
    (loaded : (d.loadImage image symbols).result = .ok ()) (aligned : 4 ∣ image.length)
    (long : 65 ≤ d.config.runStepLimit.toNat) {n steps : Nat} (within : n ≤ 64)
    (through : ∀ j < n, FallsThrough (paddedWord image j)) {stop : Stop WordMachine.Fault}
    (ending : ∀ m, StandsAt image n n m →
      Ends .empty m stop ∧ StandsAt image n steps (Engine.advance m).2) :
    let outcome := (d.loadImage image symbols).debugger.run
    outcome.result = stop.answer ∧ StandsAt image n steps outcome.debugger.engine := by
  obtain ⟨machine, settings, bare, ready⟩ := loadImage_ok_starts loaded
  obtain ⟨stands, -⟩ := WordMachine.standsAt_after aligned within through
  obtain ⟨ends, last⟩ := ending _ stands
  have quiet := WordMachine.quiet_start aligned within through
  rw [← machine, ← bare] at quiet ends
  rw [← machine] at last
  have limit : n < (d.loadImage image symbols).debugger.config.runStepLimit.toNat := by
    rw [settings]
    exact Nat.lt_of_le_of_lt within long
  obtain ⟨result, engine⟩ := answer_run_of_first (ready ▸ Status.noConfusion) limit quiet ends
  exact ⟨result, engine ▸ last⟩

/-- The first word that does not fall through decides, unless it is a jump or a store. The count of
steps has the instruction that halts in it, but none that faults. -/
theorem straight_line_runs_to_its_end (d : Debugger WordMachine) (image : Image)
    (symbols : SymbolTable) (count : Nat) (sized : image.length = 4 * count) (fits : count ≤ 64)
    (inside : ∀ entry ∈ symbols.entries, entry.2.toNat < count)
    (long : 65 ≤ d.config.runStepLimit.toNat) :
    let loaded := d.loadImage image symbols
    let outcome := loaded.debugger.run
    loaded.result = .ok () ∧
      (∀ i < 64, (∀ j < i, FallsThrough (paddedWord image j)) →
        opcode (paddedWord image i) = 0 →
          outcome.result = .ok .halted ∧ StandsAt image i (i + 1) outcome.debugger.engine) ∧
      (∀ i < 64, (∀ j < i, FallsThrough (paddedWord image j)) →
        4 < opcode (paddedWord image i) →
          outcome.result =
            .error (.execution (.illegalOpcode (opcode (paddedWord image i)) i.toUInt32)) ∧
          StandsAt image i i outcome.debugger.engine) ∧
      ((∀ j < 64, FallsThrough (paddedWord image j)) →
        outcome.result = .error (.execution (.pcOutOfBounds 0x40)) ∧
        outcome.result.mapError Error.message =
          .error "program counter 0x40 outside of memory" ∧
        StandsAt image 64 64 outcome.debugger.engine) := by
  intro loaded outcome
  have done : loaded.result = .ok () := loadImage_of_inside sized fits inside
  have aligned : 4 ∣ image.length := ⟨count, sized⟩
  refine ⟨done, fun i lt through halt => ?_, fun i lt through illegal => ?_, fun through => ?_⟩
  · exact run_of_fallsThrough done aligned long lt.le through fun m stands => stands.halts lt halt
  · exact run_of_fallsThrough done aligned long lt.le through fun m stands =>
      stands.faults (stands.nextFault?_of_illegal lt illegal)
  · obtain ⟨result, last⟩ := run_of_fallsThrough done aligned long le_rfl through fun m stands =>
      stands.faults stands.nextFault?_of_outside
    have told : outcome.result.mapError Error.message =
        .error "program counter 0x40 outside of memory" := by
      rw [show outcome.result = _ from result]
      rfl
    exact ⟨result, told, last⟩

/-- Two increments with a pause between them; the zeros behind them halt. -/
def countsTwice : Image := [0, 0, 1, 2, 0, 0, 0, 1, 0, 0, 1, 2]

theorem countsTwice_runs_to_its_end :
    let symbols := (SymbolTable.ofPairs [("last", 2)]).value
    let loaded := (ofEngine (WordMachine.start []) ⟨65⟩).loadImage countsTwice symbols
    let outcome := loaded.debugger.run
    countsTwice.length = 4 * 3 ∧ (∀ entry ∈ symbols.entries, entry.2.toNat < 3) ∧
      (∀ j < 3, FallsThrough (paddedWord countsTwice j)) ∧ opcode (paddedWord countsTwice 3) = 0 ∧
      loaded.result = .ok () ∧ outcome.result = .ok .halted ∧
      outcome.debugger.engine.pc.toNat = 3 ∧ outcome.debugger.engine.steps.toNat = 4 ∧
      outcome.debugger.engine.registers[1].toNat = 2 := by
  intro symbols loaded outcome
  have inside : ∀ entry ∈ symbols.entries, entry.2.toNat < 3 := by decide
  have through : ∀ j < 3, FallsThrough (paddedWord countsTwice j) := by decide
  have halt : opcode (paddedWord countsTwice 3) = 0 := by decide
  obtain ⟨done, halts, -⟩ :=
    straight_line_runs_to_its_end (ofEngine (WordMachine.start []) ⟨65⟩) countsTwice symbols 3 rfl
      (by decide) inside (by decide)
  obtain ⟨result, stands⟩ := halts 3 (by decide) through halt
  have counted : WordMachine.incrementCount countsTwice 3 1 = 2 := by decide
  exact ⟨rfl, inside, through, halt, done, result, stands.pc, stands.steps,
    (stands.registers 1).trans counted⟩

end Debugger
end Stepper
