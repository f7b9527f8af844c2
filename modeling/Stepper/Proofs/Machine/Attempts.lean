import Stepper.Breakpoints
import Stepper.Engine
import Mathlib.Order.Bounds.Basic

/-!
A machine left to itself. Attempts to execute an instruction follow one another, also behind a
fault. A run stops at the first attempt that faults, halts or arrives at a breakpoint; until then
the machine is quiet.
-/
namespace Stepper.Machine

variable {σ ε : Type} [Engine σ ε]

/-- The machine behind a number of attempts. -/
def after (machine : σ) : Nat → σ
  | 0 => machine
  | n + 1 => (Engine.advance (after machine n)).2

@[simp] theorem after_zero (machine : σ) : after machine 0 = machine := rfl

theorem after_succ (machine : σ) (n : Nat) :
    after machine (n + 1) = (Engine.advance (after machine n)).2 := rfl

theorem after_after (machine : σ) (m n : Nat) :
    after (after machine m) n = after machine (m + n) := by
  induction n with
  | zero => rfl
  | succ n ih =>
    rw [after_succ, ih]
    rfl

inductive Stop (ε : Type) where
  | fault (fault : ε)
  | halt
  | breakpoint

/-- How the next attempt puts an end to a run. A fault decides alone, and halting comes before a
breakpoint at the same address. -/
inductive Ends (breakpoints : Breakpoints) (machine : σ) : Stop ε → Prop where
  | fault {fault : ε} (faulted : (Engine.advance machine).1 = .error fault) :
    Ends breakpoints machine (.fault fault)
  | halt (executed : (Engine.advance machine).1 = .ok ())
    (halted : Engine.isHalted (Engine.advance machine).2 = true) : Ends breakpoints machine .halt
  | breakpoint (executed : (Engine.advance machine).1 = .ok ())
    (running : Engine.isHalted (Engine.advance machine).2 = false)
    (paused : breakpoints.contains (Engine.pc (Engine.advance machine).2) = true) :
    Ends breakpoints machine .breakpoint

def Stops (breakpoints : Breakpoints) (machine : σ) : Prop :=
  ∃ stop : Stop ε, Ends breakpoints machine stop

theorem not_stops_iff {breakpoints : Breakpoints} {machine : σ} :
    ¬ Stops breakpoints machine ↔
      (Engine.advance machine).1 = .ok () ∧
        Engine.isHalted (Engine.advance machine).2 = false ∧
        breakpoints.contains (Engine.pc (Engine.advance machine).2) = false := by
  constructor
  · intro goesOn
    have executed : (Engine.advance machine).1 = .ok () := by
      cases answer : (Engine.advance machine).1 with
      | error fault => exact absurd ⟨.fault fault, .fault answer⟩ goesOn
      | ok _ => rfl
    have running : Engine.isHalted (Engine.advance machine).2 = false := by
      rw [← Bool.not_eq_true]
      exact fun halted => goesOn ⟨.halt, .halt executed halted⟩
    refine ⟨executed, running, ?_⟩
    rw [← Bool.not_eq_true]
    exact fun paused => goesOn ⟨.breakpoint, .breakpoint executed running paused⟩
  · rintro ⟨executed, running, unpaused⟩ ⟨stop, ends⟩
    cases ends <;> simp_all

theorem Ends.unique {breakpoints : Breakpoints} {machine : σ} {stop other : Stop ε}
    (ends : Ends breakpoints machine stop) (again : Ends breakpoints machine other) :
    stop = other := by
  cases ends <;> cases again <;> simp_all

theorem Ends.ne_breakpoint {machine : σ} {stop : Stop ε} (ends : Ends .empty machine stop) :
    stop ≠ .breakpoint := by
  rintro rfl
  cases ends with
  | breakpoint _ _ paused => cases paused

/-- What ends a run without breakpoints ends every run. -/
theorem Ends.of_empty {breakpoints : Breakpoints} {machine : σ} {stop : Stop ε}
    (ends : Ends .empty machine stop) : Ends breakpoints machine stop := by
  cases ends with
  | fault faulted => exact .fault faulted
  | halt executed halted => exact .halt executed halted
  | breakpoint _ _ paused => cases paused

theorem Ends.eq_breakpoint {breakpoints : Breakpoints} {machine : σ} {stop : Stop ε}
    (goesOn : ¬ Stops .empty machine) (ends : Ends breakpoints machine stop) :
    stop = .breakpoint := by
  cases ends with
  | fault faulted => exact absurd ⟨_, .fault faulted⟩ goesOn
  | halt executed halted => exact absurd ⟨_, .halt executed halted⟩ goesOn
  | breakpoint => rfl

def Quiet (breakpoints : Breakpoints) (machine : σ) (n : Nat) : Prop :=
  ∀ i < n, ¬ Stops breakpoints (after machine i)

theorem Quiet.mono {breakpoints : Breakpoints} {machine : σ} {m n : Nat}
    (quiet : Quiet breakpoints machine n) (le : m ≤ n) : Quiet breakpoints machine m :=
  fun i lt => quiet i (lt_of_lt_of_le lt le)

theorem Quiet.append {breakpoints : Breakpoints} {machine : σ} {m n : Nat}
    (quiet : Quiet breakpoints machine m) (ahead : Quiet breakpoints (after machine m) n) :
    Quiet breakpoints machine (m + n) := by
  intro i lt
  rcases Nat.lt_or_ge i m with before | beyond
  · exact quiet i before
  · obtain ⟨j, rfl⟩ := Nat.exists_eq_add_of_le beyond
    rw [← after_after]
    exact ahead j (by omega)

theorem Quiet.executed {breakpoints : Breakpoints} {machine : σ} {n : Nat}
    (quiet : Quiet breakpoints machine n) :
    ∀ i < n, (Engine.advance (after machine i)).1 = .ok () :=
  fun i lt => (not_stops_iff.1 (quiet i lt)).1

theorem quiet_or_first (breakpoints : Breakpoints) (machine : σ) (limit : Nat) :
    Quiet breakpoints machine limit ∨
      ∃ n < limit, Quiet breakpoints machine n ∧ Stops breakpoints (after machine n) := by
  induction limit with
  | zero => exact .inl fun i lt => absurd lt (Nat.not_lt_zero i)
  | succ limit ih =>
    rcases ih with quiet | ⟨n, lt, first⟩
    · by_cases stops : Stops breakpoints (after machine limit)
      · exact .inr ⟨limit, Nat.lt_succ_self limit, quiet, stops⟩
      · refine .inl fun i lt => ?_
        rcases Nat.lt_succ_iff_lt_or_eq.1 lt with before | rfl
        · exact quiet i before
        · exact stops
    · exact .inr ⟨n, Nat.lt_succ_of_lt lt, first⟩

theorem quiet_of_isLeast {breakpoints : Breakpoints} {machine : σ} {n limit : Nat}
    (least : IsLeast {i | i < limit ∧ Stops breakpoints (after machine i)} n) :
    Quiet breakpoints machine n := by
  intro i lt stops
  have le := least.2 ⟨lt.trans least.1.1, stops⟩
  omega

/-- Left to itself the machine executes `n` instructions, and the next attempt is its last. -/
structure Finishes (machine : σ) (n : Nat) (stop : Stop ε) : Prop where
  quiet : Quiet .empty machine n
  ends : Ends .empty (after machine n) stop

theorem Finishes.le_of_quiet {breakpoints : Breakpoints} {machine : σ} {m n : Nat} {stop : Stop ε}
    (finishes : Finishes machine n stop) (quiet : Quiet breakpoints machine m) : m ≤ n := by
  by_contra beyond
  exact quiet n (not_le.1 beyond) ⟨stop, finishes.ends.of_empty⟩

theorem Finishes.after {machine : σ} {m n : Nat} {stop : Stop ε}
    (finishes : Finishes machine (m + n) stop) : Finishes (after machine m) n stop where
  quiet := by
    intro i lt
    rw [after_after]
    exact finishes.quiet (m + i) (Nat.add_lt_add_left lt m)
  ends := by
    rw [after_after]
    exact finishes.ends

end Stepper.Machine
