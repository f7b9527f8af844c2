import Stepper.Debugger.Basic
import Stepper.Location

/-!
Breakpoints of a debugger, set and removed at an address or at a label. A label stands for the
address that it has now; the breakpoint does not follow it.
-/
namespace Stepper.Debugger

variable {σ ε : Type}

/-- The address that a location denotes. -/
def locate (d : Debugger σ) : Location → Except (Error ε) Address
  | .address addr => .ok addr
  | .label name => d.resolve name

/-- Sets a breakpoint and tells whether it is new. -/
def setBreakpoint (d : Debugger σ) (location : Location) : Outcome σ ε Bool :=
  match d.locate location with
  | .error cause => d.answer (.error cause)
  | .ok addr =>
    let (added, breakpoints) := d.breakpoints.insert addr
    ⟨.ok added, { d with breakpoints := breakpoints }, [.event (.breakpointSet addr added)]⟩

/-- Removes a breakpoint and tells whether there was one. -/
def removeBreakpoint (d : Debugger σ) (location : Location) : Outcome σ ε Bool :=
  match d.locate location with
  | .error cause => d.answer (.error cause)
  | .ok addr =>
    let (removed, breakpoints) := d.breakpoints.erase addr
    ⟨.ok removed, { d with breakpoints := breakpoints }, [.event (.breakpointRemoved addr removed)]⟩

def isBreakpoint (d : Debugger σ) (addr : Address) : Bool := d.breakpoints.contains addr

def clearBreakpoints (d : Debugger σ) : Debugger σ := { d with breakpoints := .empty }

end Stepper.Debugger
