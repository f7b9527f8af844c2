import Stepper.Proofs.Session.Frame
import Mathlib.Data.List.DropRight

/-!
Breakpoints follow their history. What happened to the breakpoint at an address is told by the
requests since the breakpoints were last cleared: the last one that was about this address, by
whatever name, decides.
-/
namespace Stepper

/-- The address that a location stands for among the symbols. -/
def Location.addressIn? (symbols : SymbolTable) : Location → Option Address
  | .address addr => some addr
  | .label name => symbols.resolve name

theorem Location.exists_unknown {symbols : SymbolTable} {location : Location}
    (unplaced : location.addressIn? symbols = none) :
    ∃ label, location = .label label ∧ symbols.resolve label = none := by
  cases location with
  | address addr => cases unplaced
  | label name => exact ⟨name, rfl, unplaced⟩

/-- An operation with the debugger that it is asked of. -/
structure Request (σ : Type) where
  debugger : Debugger σ
  operation : Operation

namespace Request

variable {σ ε : Type}

/-- Whether a request sets the breakpoint at an address or removes it, if it is about this one. -/
def verdict (addr : Address) (request : Request σ) : Option Bool :=
  match request.operation with
  | .setBreakpoint location =>
    if location.addressIn? request.debugger.symbols = some addr then some true else none
  | .removeBreakpoint location =>
    if location.addressIn? request.debugger.symbols = some addr then some false else none
  | _ => none

variable [Engine σ ε]

/-- All breakpoints go when they are cleared and when a program is loaded. -/
def clears (request : Request σ) : Bool :=
  match request.operation with
  | .clearBreakpoints => true
  | .load .. | .loadImage .. =>
    (request.debugger.perform request.operation : Debugger.Outcome σ ε Answer).result.isOk
  | _ => false

/-- The last verdict on an address since the breakpoints were cleared. -/
def lastVerdict (addr : Address) (requests : List (Request σ)) : Option Bool :=
  ((requests.rtakeWhile fun request => !request.clears).filterMap (verdict addr)).getLast?

theorem getLast?_filterMap_concat {α β : Type} (f : α → Option β) (front : List α) (last : α) :
    ((front ++ [last]).filterMap f).getLast? = (f last).or (front.filterMap f).getLast? := by
  rw [List.filterMap_append, List.getLast?_append]
  cases told : f last <;> simp only [List.filterMap_cons, told] <;> rfl

theorem lastVerdict_concat (addr : Address) (requests : List (Request σ)) (request : Request σ) :
    lastVerdict addr (requests ++ [request]) =
      if request.clears then none else (request.verdict addr).or (lastVerdict addr requests) := by
  unfold lastVerdict
  rw [List.rtakeWhile_concat]
  by_cases clears : request.clears
  · rw [if_pos clears, if_neg (by simp [clears])]
    rfl
  · rw [if_neg clears, if_pos (by simp [clears]), getLast?_filterMap_concat]

end Request

namespace Debugger

variable {σ ε : Type}

section Naming

variable {d : Debugger σ} {location : Location} {addr : Address} {label : String}

theorem locate_of_denotes (denotes : location.addressIn? d.symbols = some addr) :
    (d.locate location : Except (Error ε) Address) = .ok addr := by
  cases location with
  | address other =>
    rw [← Option.some.inj denotes]
    rfl
  | label name =>
    change d.symbols.resolve name = some addr at denotes
    rw [locate, resolve, denotes]

theorem locate_of_unknown (unknown : d.symbols.resolve label = none) :
    (d.locate (.label label) : Except (Error ε) Address) = .error (.unknownSymbol label) := by
  rw [locate, resolve, unknown]

theorem setBreakpoint_of_denotes (denotes : location.addressIn? d.symbols = some addr) :
    (d.setBreakpoint location : Outcome σ ε Bool) =
      ⟨.ok (!d.isBreakpoint addr), { d with breakpoints := (d.breakpoints.insert addr).2 },
        [.event (.breakpointSet addr (!d.isBreakpoint addr))]⟩ := by
  rw [setBreakpoint, locate_of_denotes denotes]
  rfl

theorem removeBreakpoint_of_denotes (denotes : location.addressIn? d.symbols = some addr) :
    (d.removeBreakpoint location : Outcome σ ε Bool) =
      ⟨.ok (d.isBreakpoint addr), { d with breakpoints := (d.breakpoints.erase addr).2 },
        [.event (.breakpointRemoved addr (d.isBreakpoint addr))]⟩ := by
  rw [removeBreakpoint, locate_of_denotes denotes]
  rfl

theorem setBreakpoint_of_unknown (unknown : d.symbols.resolve label = none) :
    (d.setBreakpoint (.label label) : Outcome σ ε Bool) =
      ⟨.error (.unknownSymbol label), d, []⟩ := by
  rw [setBreakpoint, locate_of_unknown unknown]
  rfl

theorem removeBreakpoint_of_unknown (unknown : d.symbols.resolve label = none) :
    (d.removeBreakpoint (.label label) : Outcome σ ε Bool) =
      ⟨.error (.unknownSymbol label), d, []⟩ := by
  rw [removeBreakpoint, locate_of_unknown unknown]
  rfl

end Naming

variable [Engine σ ε]

def requests (d : Debugger σ) : List Operation → List (Request σ)
  | [] => []
  | operation :: rest =>
    ⟨d, operation⟩ :: (d.perform operation : Outcome σ ε Answer).debugger.requests rest

theorem requests_concat (d : Debugger σ) (operations : List Operation) (last : Operation) :
    d.requests (operations ++ [last]) =
      d.requests operations ++ [⟨d.performAll operations, last⟩] := by
  induction operations generalizing d with
  | nil => rfl
  | cons operation rest ih => simp only [List.cons_append, requests, ih, performAll_cons]

/-- Only editing and loading change the breakpoints. -/
theorem breakpoints_perform {d : Debugger σ} {operation : Operation}
    (unedited : operation.kind ≠ .edits)
    (unloaded : operation.kind = .loads →
      (d.perform operation : Outcome σ ε Answer).result.isOk = false) :
    (d.perform operation : Outcome σ ε Answer).debugger.breakpoints = d.breakpoints := by
  cases perform_change d operation with
  | looked _ next => rw [next]
  | edited kind _ _ => exact absurd kind unedited
  | executed _ _ _ next => rw [next]
  | written _ _ next => rw [next]
  | refused _ _ _ next => rw [next]
  | loaded kind _ _ done _ => rw [unloaded kind] at done; cases done

theorem isBreakpoint_perform_of_still {d : Debugger σ} {operation : Operation}
    (unedited : operation.kind ≠ .edits) (unloaded : operation.kind ≠ .loads) (addr : Address) :
    (d.perform operation : Outcome σ ε Answer).debugger.isBreakpoint addr =
      d.isBreakpoint addr := by
  have same := breakpoints_perform (d := d) unedited fun loads => absurd loads unloaded
  rw [Debugger.isBreakpoint, same, Debugger.isBreakpoint]

theorem isBreakpoint_perform_of_loads {d : Debugger σ} {operation : Operation}
    (loads : operation.kind = .loads) (addr : Address) :
    (d.perform operation : Outcome σ ε Answer).debugger.isBreakpoint addr =
      if (d.perform operation : Outcome σ ε Answer).result.isOk then false
      else d.isBreakpoint addr := by
  cases perform_change d operation with
  | refused _ _ failed next =>
    rw [failed, next]
    rfl
  | loaded _ _ _ done next =>
    rw [done, next]
    rfl
  | looked kind | edited kind | executed kind | written kind =>
    rw [loads] at kind
    cases kind

theorem isBreakpoint_perform_setBreakpoint (d : Debugger σ) (location : Location) (addr : Address) :
    (d.perform (.setBreakpoint location) : Outcome σ ε Answer).debugger.isBreakpoint addr =
      if location.addressIn? d.symbols = some addr then true else d.isBreakpoint addr := by
  change (d.setBreakpoint location : Outcome σ ε Bool).debugger.isBreakpoint addr = _
  cases denoted : location.addressIn? d.symbols with
  | none =>
    obtain ⟨label, rfl, unknown⟩ := Location.exists_unknown denoted
    rw [setBreakpoint_of_unknown unknown]
    rfl
  | some found =>
    rw [setBreakpoint_of_denotes denoted]
    change (d.breakpoints.insert found).2.contains addr = _
    rw [Breakpoints.contains_insert]
    by_cases same : addr = found
    · simp [same]
    · rw [beq_false_of_ne same, if_neg fun other => same (Option.some.inj other).symm]
      rfl

theorem isBreakpoint_perform_removeBreakpoint (d : Debugger σ) (location : Location)
    (addr : Address) :
    (d.perform (.removeBreakpoint location) : Outcome σ ε Answer).debugger.isBreakpoint addr =
      if location.addressIn? d.symbols = some addr then false else d.isBreakpoint addr := by
  change (d.removeBreakpoint location : Outcome σ ε Bool).debugger.isBreakpoint addr = _
  cases denoted : location.addressIn? d.symbols with
  | none =>
    obtain ⟨label, rfl, unknown⟩ := Location.exists_unknown denoted
    rw [removeBreakpoint_of_unknown unknown]
    rfl
  | some found =>
    rw [removeBreakpoint_of_denotes denoted]
    change (d.breakpoints.erase found).2.contains addr = _
    rw [Breakpoints.contains_erase]
    by_cases same : addr = found
    · simp [same]
    · rw [bne_iff_ne.2 same, if_neg fun other => same (Option.some.inj other).symm]
      rfl

/-- What one operation makes of the breakpoint at an address. -/
theorem isBreakpoint_perform (d : Debugger σ) (operation : Operation) (addr : Address) :
    (d.perform operation : Outcome σ ε Answer).debugger.isBreakpoint addr =
      if (Request.mk d operation).clears then false
      else ((Request.mk d operation).verdict addr).getD (d.isBreakpoint addr) := by
  cases operation with
  | setBreakpoint location =>
    rw [isBreakpoint_perform_setBreakpoint]
    change _ = (if location.addressIn? d.symbols = some addr then some true else none).getD _
    split <;> rfl
  | removeBreakpoint location =>
    rw [isBreakpoint_perform_removeBreakpoint]
    change _ = (if location.addressIn? d.symbols = some addr then some false else none).getD _
    split <;> rfl
  | clearBreakpoints => rfl
  | load | loadImage =>
    refine isBreakpoint_perform_of_loads ?_ addr
    rfl
  | step | run | resolve | isBreakpoint | readRegister | readMemory | writeRegister | writeMemory
  | symbolize | symbols | config =>
    refine isBreakpoint_perform_of_still ?_ ?_ addr <;> exact Operation.Kind.noConfusion

theorem isBreakpoint_performAll (engine : σ) (config : Config) (operations : List Operation)
    (addr : Address) :
    ((ofEngine engine config).performAll operations).isBreakpoint addr =
      (Request.lastVerdict addr ((ofEngine engine config).requests operations)).getD false := by
  induction operations using List.reverseRecOn with
  | nil => rfl
  | append_singleton operations last ih =>
    rw [performAll_append, performAll_cons, performAll_nil, isBreakpoint_perform, requests_concat,
      Request.lastVerdict_concat, ih]
    split
    · rfl
    · cases Request.verdict addr ⟨(ofEngine engine config).performAll operations, last⟩ <;> rfl

/-- What setting and removing say and do, whatever name is used, and that nothing else but clearing
and loading does anything. -/
structure BreakpointLaws (d : Debugger σ) : Prop where
  set_answer : ∀ location addr, location.addressIn? d.symbols = some addr →
    (d.setBreakpoint location : Outcome σ ε Bool).result = .ok (!d.isBreakpoint addr)
  remove_answer : ∀ location addr, location.addressIn? d.symbols = some addr →
    (d.removeBreakpoint location : Outcome σ ε Bool).result = .ok (d.isBreakpoint addr)
  set_label : ∀ label addr, d.symbols.resolve label = some addr →
    (d.setBreakpoint (.label label) : Outcome σ ε Bool) = d.setBreakpoint (.address addr)
  remove_label : ∀ label addr, d.symbols.resolve label = some addr →
    (d.removeBreakpoint (.label label) : Outcome σ ε Bool) = d.removeBreakpoint (.address addr)
  set_unknown : ∀ label, d.symbols.resolve label = none →
    (d.setBreakpoint (.label label) : Outcome σ ε Bool) = ⟨.error (.unknownSymbol label), d, []⟩
  remove_unknown : ∀ label, d.symbols.resolve label = none →
    (d.removeBreakpoint (.label label) : Outcome σ ε Bool) = ⟨.error (.unknownSymbol label), d, []⟩
  still : ∀ operation : Operation, operation.kind ≠ .edits →
    (operation.kind = .loads → (d.perform operation : Outcome σ ε Answer).result.isOk = false) →
      (d.perform operation : Outcome σ ε Answer).debugger.breakpoints = d.breakpoints

theorem breakpointLaws (d : Debugger σ) : d.BreakpointLaws where
  set_answer := by
    intro location addr denotes
    rw [setBreakpoint_of_denotes denotes]
  remove_answer := by
    intro location addr denotes
    rw [removeBreakpoint_of_denotes denotes]
  set_label := by
    intro label addr resolved
    have named : (Location.label label).addressIn? d.symbols = some addr := resolved
    rw [setBreakpoint_of_denotes named]
    rfl
  remove_label := by
    intro label addr resolved
    have named : (Location.label label).addressIn? d.symbols = some addr := resolved
    rw [removeBreakpoint_of_denotes named]
    rfl
  set_unknown := fun _ unknown => setBreakpoint_of_unknown unknown
  remove_unknown := fun _ unknown => removeBreakpoint_of_unknown unknown
  still := fun _ unedited unloaded => breakpoints_perform unedited unloaded

theorem breakpoints_follow_history (engine : σ) (config : Config) (operations : List Operation) :
    let start := ofEngine engine config
    let d := start.performAll operations
    (∀ addr, d.isBreakpoint addr = true ↔
      Request.lastVerdict addr (start.requests operations) = some true) ∧
    (∀ addr, addr ∈ d.breakpoints.toList ↔ d.isBreakpoint addr = true) ∧
    d.breakpoints.toList.Pairwise (· < ·) ∧
    ∀ other : Debugger σ, other.BreakpointLaws := by
  intro start d
  refine ⟨fun addr => ?_, fun addr => ?_, d.breakpoints.ascending, breakpointLaws⟩
  · rw [isBreakpoint_performAll]
    cases Request.lastVerdict addr (start.requests operations) <;> simp
  · exact List.contains_iff_mem.symm

end Debugger
end Stepper
