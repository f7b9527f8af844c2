import Stepper.Proofs.Debugger.Resemblance
import Stepper.Proofs.Debugger.Verdict
import Stepper.Proofs.Session.Reloading
import Mathlib.Data.Fintype.Pigeonhole

/-!
A program without stores comes to its end soon or goes in circles. Nothing changes its memory, so
its address tells where it goes from there, whatever is in the registers. There are no more
addresses than words of memory, and once the program is back at one of them it has no way left to
its end.
-/
namespace Stepper
open Machine

namespace WordMachine

def StoreFree (m : WordMachine) : Prop :=
  ∀ (i : Nat) (word : Word), m.memory[i]? = some word → opcode word ≠ storeOpcode

/-- The machines are at the same place of the same program. -/
structure SameCourse (m other : WordMachine) : Prop where
  memory : m.memory = other.memory
  pc : m.pc = other.pc
  halted : m.halted = other.halted

variable {m other : WordMachine} {instruction : Instruction}

theorem opcode_of_decode_store {word : Word} {r : Fin 4} {slot : Address}
    (decoded : Instruction.decode word = .store r slot) : opcode word = storeOpcode := by
  unfold Instruction.decode at decoded
  repeat' split at decoded
  all_goals first | assumption | cases decoded

theorem StoreFree.ne_store (free : m.StoreFree) (fetched : m.fetch = .ok instruction) (r : Fin 4)
    (slot : Address) : instruction ≠ .store r slot := by
  rintro rfl
  obtain ⟨word, found, decoded⟩ := exists_word_of_fetch fetched
  exact free _ word found (opcode_of_decode_store decoded)

theorem StoreFree.memory_advance (free : m.StoreFree) :
    (Engine.advance m).2.memory = m.memory := by
  cases answer : (Engine.advance m).1 with
  | error fault => rw [advance_of_nextFault? (nextFault?_eq_some_iff.2 answer)]
  | ok _ =>
    obtain ⟨instruction, -, fetched, -⟩ := exists_execute answer
    exact memory_advance_of_not_store answer fetched (free.ne_store fetched)

theorem StoreFree.memory_after (free : m.StoreFree) (n : Nat) : (after m n).memory = m.memory := by
  induction n with
  | zero => rfl
  | succ n ih =>
    have still : (after m n).StoreFree := by
      unfold StoreFree
      rw [ih]
      exact free
    rw [after_succ, still.memory_advance, ih]

theorem StoreFree.after (free : m.StoreFree) (n : Nat) : (Machine.after m n).StoreFree := by
  unfold StoreFree
  rw [free.memory_after]
  exact free

theorem SameCourse.advance (course : SameCourse m other) (free : other.StoreFree) :
    Resembles m other ∧ SameCourse (Engine.advance m).2 (Engine.advance other).2 := by
  have freeToo : m.StoreFree := by
    unfold StoreFree
    rw [course.memory]
    exact free
  have word : m.memory[other.pc.toNat]? = other.memory[other.pc.toNat]? := by rw [course.memory]
  have memory : (Engine.advance m).2.memory = (Engine.advance other).2.memory := by
    rw [free.memory_advance, freeToo.memory_advance, course.memory]
  cases answer : (Engine.advance other).1 with
  | error fault =>
    have told := nextFault?_eq_some_iff.2 answer
    have toldToo := (nextFault?_congr course.pc word).trans told
    obtain ⟨resembles, staysToo, stays⟩ :=
      resembles_of_nextFault? told toldToo course.pc course.halted
    rw [stays, staysToo]
    exact ⟨resembles, course⟩
  | ok _ =>
    obtain ⟨instruction, -, fetched, -⟩ := exists_execute answer
    have fetchedToo := (fetch_congr course.pc word).trans fetched
    have fine : m.nextFault? = none := by
      rw [nextFault?_congr course.pc word, nextFault?_eq_none_iff, answer]
    have answerToo := nextFault?_eq_none_iff.1 fine
    have pc : (Engine.advance m).2.pc = (Engine.advance other).2.pc := by
      rw [pc_advance answer fetched, pc_advance answerToo fetchedToo, course.pc]
    have halted : (Engine.advance m).2.halted = (Engine.advance other).2.halted := by
      rw [halted_advance answer fetched, halted_advance answerToo fetchedToo, course.halted]
    exact ⟨⟨answerToo.trans answer.symm, halted, pc⟩, ⟨memory, pc, halted⟩⟩

theorem SameCourse.after (course : SameCourse m other) (free : other.StoreFree) (n : Nat) :
    SameCourse (after m n) (after other n) := by
  induction n with
  | zero => exact course
  | succ n ih => exact (ih.advance (free.after n)).2

theorem SameCourse.stops_iff (course : SameCourse m other) (free : other.StoreFree)
    {breakpoints : Breakpoints} : Stops breakpoints m ↔ Stops breakpoints other :=
  (course.advance free).1.stops_iff

theorem running_of_not_stops {breakpoints : Breakpoints} (goesOn : ¬ Stops breakpoints m) :
    m.halted = false := by
  obtain ⟨executed, running, -⟩ := not_stops_iff.1 goesOn
  obtain ⟨instruction, -, fetched, -⟩ := exists_execute executed
  have flag := (halted_advance executed fetched).symm.trans running
  exact (Bool.or_eq_false_iff.1 flag).2

/-- One of the first addresses comes twice, since each of them is an address of memory. -/
theorem exists_sameCourse {breakpoints : Breakpoints} (free : m.StoreFree)
    (quiet : Quiet breakpoints m (capacity + 1)) :
    ∃ i j, i < j ∧ j ≤ capacity ∧ SameCourse (Machine.after m j) (Machine.after m i) := by
  have inside (k : Fin (capacity + 1)) : (Machine.after m k).pc.toNat < capacity :=
    pc_lt_of_executed (quiet.executed k k.isLt)
  have course (i j : Fin (capacity + 1))
      (same : (Machine.after m j).pc.toNat = (Machine.after m i).pc.toNat) :
      SameCourse (Machine.after m j) (Machine.after m i) := by
    refine ⟨?_, UInt32.toNat_inj.1 same, ?_⟩
    · rw [free.memory_after, free.memory_after]
    · rw [running_of_not_stops (quiet i i.isLt), running_of_not_stops (quiet j j.isLt)]
  obtain ⟨i, j, differ, same⟩ := Fintype.exists_ne_map_eq_of_card_lt
    (fun k => (⟨_, inside k⟩ : Fin capacity)) (by simp)
  have same := Fin.val_eq_of_eq same
  rcases lt_or_gt_of_ne differ with lt | gt
  · exact ⟨i, j, lt, Nat.le_of_lt_succ j.isLt, course i j same.symm⟩
  · exact ⟨j, i, gt, Nat.le_of_lt_succ i.isLt, course j i same⟩

/-- Behind the point where the program is back, each attempt has gone as an earlier one. -/
theorem SameCourse.not_stops {breakpoints : Breakpoints} {i j : Nat}
    (course : SameCourse (Machine.after m j) (Machine.after m i)) (lt : i < j) (free : m.StoreFree)
    (quiet : Quiet breakpoints m j) (n : Nat) : ¬ Stops breakpoints (Machine.after m n) := by
  induction n using Nat.strong_induction_on with
  | h n ih =>
    rcases Nat.lt_or_ge n j with before | beyond
    · exact quiet n before
    · obtain ⟨rest, rfl⟩ := Nat.exists_eq_add_of_le beyond
      have still := course.after (free.after i) rest
      rw [after_after, after_after] at still
      rw [still.stops_iff (free.after _)]
      exact ih (i + rest) (by omega)

theorem StoreFree.not_stops {breakpoints : Breakpoints} (free : m.StoreFree)
    (quiet : Quiet breakpoints m (capacity + 1)) (n : Nat) :
    ¬ Stops breakpoints (Machine.after m n) := by
  obtain ⟨i, j, lt, le, course⟩ := exists_sameCourse free quiet
  exact course.not_stops lt free (quiet.mono (Nat.le_succ_of_le le)) n

theorem storeFree_start {image : Image} (aligned : 4 ∣ image.length)
    (free : ∀ i, 4 * i < image.length → opcode (paddedWord image i) ≠ storeOpcode) :
    (start (words image)).StoreFree := by
  intro i word found
  obtain ⟨within, -⟩ := Vector.getElem?_eq_some_iff.1 found
  rw [getElem?_memory_start _ within, getD_words aligned, Option.some.injEq] at found
  rw [← found]
  rcases Nat.lt_or_ge (4 * i) image.length with before | beyond
  · exact free i before
  · rw [paddedWord_of_le beyond]
    decide

end WordMachine

theorem Machine.not_stops_of_unfinished {σ ε : Type} [Engine σ ε] {machine : σ}
    (unfinished : ∀ n stop, ¬ Finishes machine n stop) (n : Nat) :
    ¬ Stops .empty (after machine n) := by
  rcases quiet_or_first .empty machine (n + 1) with quiet | ⟨last, -, quiet, stop, ends⟩
  · exact quiet n n.lt_succ_self
  · exact absurd ⟨quiet, ends⟩ (unfinished last stop)

namespace Debugger

section Endless

variable {σ ε : Type} [Engine σ ε] {d : Debugger σ}

theorem endless_quietly (endless : ∀ n, ¬ Stops d.breakpoints (after d.engine n)) (k n : Nat) :
    ¬ Stops (d.quietly k).breakpoints (after (d.quietly k).engine n) := by
  change ¬ Stops d.breakpoints (after (after d.engine k) n)
  rw [after_after]
  exact endless (k + n)

/-- A program that nothing stops goes on quietly, however it is stepped and run. -/
theorem exists_quietly (awake : d.status ≠ .halted)
    (endless : ∀ n, ¬ Stops d.breakpoints (after d.engine n)) {operations : List Operation}
    (onward : ∀ operation ∈ operations, operation.kind = .executes ∨ operation.kind = .looks) :
    ∃ k, d.performAll operations = d.quietly k := by
  induction operations generalizing d with
  | nil => exact ⟨0, rfl⟩
  | cons operation rest ih =>
    obtain ⟨first, others⟩ := List.forall_mem_cons.1 onward
    have one : ∃ k, (d.perform operation : Outcome σ ε Answer).debugger = d.quietly k := by
      cases operation with
      | step =>
        refine ⟨1, ?_⟩
        rw [perform, step_of_not_stops awake (endless 0)]
        rfl
      | run =>
        refine ⟨d.config.runStepLimit.toNat, ?_⟩
        rw [perform, run_of_quiet awake fun i _ => endless i]
        rfl
      | resolve | isBreakpoint | readRegister | readMemory | symbolize | symbols | config =>
        exact ⟨0, rfl⟩
      | _ => rcases first with kind | kind <;> cases kind
    obtain ⟨k, next⟩ := one
    obtain ⟨more, later⟩ := ih (quietly_ne_halted awake k) (endless_quietly endless k) others
    refine ⟨k + more, ?_⟩
    rw [performAll_cons, next, later, quietly_quietly]

theorem answers_of_endless (awake : d.status ≠ .halted) (moving : 0 < d.config.runStepLimit.toNat)
    (endless : ∀ n, ¬ Stops d.breakpoints (after d.engine n)) :
    (d.step : Outcome σ ε Status).result = .ok .ready ∧
      (d.run : Outcome σ ε Status).result = .ok .ready := by
  refine ⟨(step_result_eq_ready_iff awake).2 (endless 0), ?_⟩
  rw [run_of_quiet awake fun i _ => endless i]
  exact congrArg Except.ok (if_neg moving.ne')

theorem quiet_of_run_ready (awake : d.status ≠ .halted)
    (ready : (d.run : Outcome σ ε Status).result = .ok .ready) :
    Quiet d.breakpoints d.engine d.config.runStepLimit.toNat := by
  rcases quiet_or_first d.breakpoints d.engine d.config.runStepLimit.toNat with
    quiet | ⟨n, within, quiet, stop, ends⟩
  · exact quiet
  · rw [run_of_first awake within quiet ends] at ready
    exact absurd ready (stop_answer_ne_ready stop)

end Endless

/-- The attempts of a program are numbered from zero, so the last part says that its end comes with
one of the first sixty-five. -/
theorem long_run_decides_storeFree (d : Debugger WordMachine) (image : Image)
    (symbols : SymbolTable) (count : Nat) (sized : image.length = 4 * count) (fits : count ≤ 64)
    (inside : ∀ entry ∈ symbols.entries, entry.2.toNat < count)
    (storeFree : ∀ i < count, WordMachine.opcode (WordMachine.paddedWord image i) ≠ 4)
    (long : 65 ≤ d.config.runStepLimit.toNat) :
    let loaded := d.loadImage image symbols
    let started := loaded.debugger
    loaded.result = .ok () ∧
      (started.run.result = .ok .ready →
        ∀ operations : List Operation,
          (∀ operation ∈ operations, operation.kind = .executes ∨ operation.kind = .looks) →
            (started.performAll operations).step.result = .ok .ready ∧
            (started.performAll operations).run.result = .ok .ready) ∧
      (started.run.result = .ok .ready ↔ ∀ n stop, ¬ Finishes started.engine n stop) ∧
      (∀ n stop, Finishes started.engine n stop → n < 65) := by
  intro loaded started
  have done : loaded.result = .ok () := loadImage_of_inside sized fits inside
  obtain ⟨machine, settings, bare, ready⟩ := loadImage_ok_starts done
  have free : started.engine.StoreFree := by
    rw [machine]
    exact WordMachine.storeFree_start ⟨count, sized⟩ fun i lt => storeFree i (by omega)
  have awake : started.status ≠ .halted := ready ▸ Status.noConfusion
  have limit : 65 ≤ started.config.runStepLimit.toNat := by
    rw [settings]
    exact long
  have moving : 0 < started.config.runStepLimit.toNat := Nat.lt_of_lt_of_le (by decide) limit
  have endless (ready : started.run.result = .ok .ready) (n : Nat) :
      ¬ Stops started.breakpoints (after started.engine n) :=
    free.not_stops ((quiet_of_run_ready awake ready).mono limit) n
  refine ⟨done, fun ready operations onward => ?_, ⟨fun ready n stop finishes => ?_, ?_⟩, ?_⟩
  · obtain ⟨k, next⟩ := exists_quietly awake (endless ready) onward
    rw [next]
    exact answers_of_endless (quietly_ne_halted awake k) moving (endless_quietly (endless ready) k)
  · rw [bare] at endless
    exact endless ready n ⟨stop, finishes.ends⟩
  · intro unfinished
    have never := not_stops_of_unfinished unfinished
    rw [← bare] at never
    exact (answers_of_endless awake moving never).2
  · intro n stop finishes
    by_contra beyond
    exact free.not_stops (finishes.quiet.mono (not_lt.1 beyond)) n ⟨stop, finishes.ends⟩

/-- Sixty-four attempts tell nothing: this program has got through all of memory by then, and falls
off its end with the next one. -/
example :
    let image := (List.replicate 64 [0, 0, 0, 1]).flatten
    let started := ((ofEngine (WordMachine.start []) ⟨64⟩).loadImage image .empty).debugger
    started.run.result = .ok .ready ∧
      started.run.debugger.step.result = .error (.execution (.pcOutOfBounds 64)) := by
  decide +kernel

/-- A program that counts for ever. -/
def countsForever : Image := [0, 0, 0, 2, 0, 0, 0, 3]

theorem countsForever_is_decided :
    let symbols := (SymbolTable.ofPairs [("loop", 0)]).value
    let loaded := (ofEngine (WordMachine.start []) ⟨65⟩).loadImage countsForever symbols
    countsForever.length = 4 * 2 ∧ (∀ entry ∈ symbols.entries, entry.2.toNat < 2) ∧
      (∀ i < 2, WordMachine.opcode (WordMachine.paddedWord countsForever i) ≠ 4) ∧
      loaded.result = .ok () ∧ loaded.debugger.run.result = .ok .ready ∧
      (loaded.debugger.performAll [.run, .step, .config, .run]).run.result = .ok .ready ∧
      ∀ n stop, ¬ Finishes loaded.debugger.engine n stop := by
  intro symbols loaded
  have inside : ∀ entry ∈ symbols.entries, entry.2.toNat < 2 := by decide
  have storeFree : ∀ i < 2, WordMachine.opcode (WordMachine.paddedWord countsForever i) ≠ 4 := by
    decide
  have ready : loaded.debugger.run.result = .ok .ready := by decide +kernel
  obtain ⟨done, goesOn, unfinished, _⟩ :=
    long_run_decides_storeFree (ofEngine (WordMachine.start []) ⟨65⟩) countsForever symbols 2 rfl
      (by decide)
      inside storeFree (by decide)
  exact ⟨rfl, inside, storeFree, done, ready,
    (goesOn ready [.run, .step, .config, .run] (by decide)).2, unfinished.1 ready⟩

end Debugger
end Stepper
