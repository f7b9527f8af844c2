import Stepper.Proofs.Session.Recording
import Stepper.Proofs.Debugger.Loading
import Stepper.Proofs.Debugger.Run

/-!
The history of a session lists the calls that its operations made of the machine, each with the
breakpoints of that moment. Transitions are the calls that loaded a program or executed an
instruction; the others left the program where it was.
-/
namespace Stepper

structure Moment (σ : Type) where
  call : Call σ
  breakpoints : Breakpoints

namespace Moment

variable {σ ε : Type} [Engine σ ε]

def isTransition (moment : Moment σ) : Bool := moment.call.loads || moment.call.executes

def lastTransition (history : List (Moment σ)) : Option (Moment σ) :=
  (history.filter isTransition).getLast?

theorem lastTransition_eq_none_iff {history : List (Moment σ)} :
    lastTransition history = none ↔ ∀ moment ∈ history, moment.isTransition = false := by
  rw [lastTransition, List.getLast?_eq_none_iff, List.filter_eq_nil_iff]
  simp only [Bool.not_eq_true]

theorem lastTransition_concat (history : List (Moment σ)) (moment : Moment σ) :
    lastTransition (history ++ [moment]) =
      if moment.isTransition then some moment else lastTransition history := by
  unfold lastTransition
  rw [List.filter_append]
  by_cases transits : moment.isTransition <;> simp [transits]

end Moment

namespace Debugger

variable {σ ε : Type} [Engine σ ε]

/-- The calls of one operation. Breakpoints change at most at its end, behind all of them. -/
def moments (d : Debugger σ) (operation : Operation) : List (Moment σ) :=
  (d.recording.perform operation : Outcome (Recorded σ) ε Answer).calls.map fun call =>
    ⟨call, d.breakpoints⟩

def history (d : Debugger σ) : List Operation → List (Moment σ)
  | [] => []
  | operation :: rest =>
    d.moments operation ++ (d.perform operation : Outcome σ ε Answer).debugger.history rest

theorem perform_eq_plain (d : Debugger σ) (operation : Operation) :
    (d.perform operation : Outcome σ ε Answer) = (d.recording.perform operation).plain :=
  (plain_perform d.recording operation).symm

end Debugger
end Stepper
