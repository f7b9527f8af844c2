import Stepper.Proofs.Machine.Attempts
import Stepper.WordMachine.Basic

/-!
The word machine counts the instructions that it executes. An attempt that faults is not counted,
and the count starts again at zero only when it has passed the last number of 64 bits.
-/
namespace Stepper.WordMachine
open Machine

/-- What an instruction does apart from being counted leaves the count alone. -/
theorem steps_execute {m next : WordMachine} {instruction : Instruction}
    (done : m.execute instruction = .ok next) : next.steps = m.steps := by
  cases instruction with
  | store r slot =>
    simp only [execute] at done
    split at done <;> cases done
    rfl
  | illegal => cases done
  | halt | nop | increment | jump =>
    cases done
    rfl

theorem exists_execute {m : WordMachine} (executed : (Engine.advance m).1 = .ok ()) :
    ∃ instruction next, m.fetch = .ok instruction ∧ m.execute instruction = .ok next ∧
      (Engine.advance m).2 = { next with steps := next.steps + 1 } := by
  change m.advance.1 = _ at executed
  change ∃ instruction next, _ ∧ _ ∧ m.advance.2 = _
  unfold advance at executed ⊢
  split at executed
  · next next done =>
    cases fetched : m.fetch with
    | error fault =>
      rw [fetched] at done
      cases done
    | ok instruction =>
      rw [fetched] at done
      exact ⟨instruction, next, rfl, done, rfl⟩
  · cases executed

theorem steps_advance {m : WordMachine} (executed : (Engine.advance m).1 = .ok ()) :
    (Engine.advance m).2.steps = m.steps + 1 := by
  obtain ⟨instruction, next, _, done, counted⟩ := exists_execute executed
  rw [counted, ← steps_execute done]

theorem toNat_steps_after {m : WordMachine} {n : Nat}
    (executed : ∀ i < n, (Engine.advance (after m i)).1 = .ok ()) :
    (after m n).steps.toNat = (m.steps.toNat + n) % UInt64.size := by
  induction n with
  | zero => exact (Nat.mod_eq_of_lt m.steps.toNat_lt_size).symm
  | succ n ih =>
    have before := ih fun i lt => executed i (Nat.lt_succ_of_lt lt)
    rw [after_succ, steps_advance (executed n (Nat.lt_succ_self n)), UInt64.toNat_add, before]
    simp only [UInt64.toNat_one, UInt64.size]
    omega

end Stepper.WordMachine
