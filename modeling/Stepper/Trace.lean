import Stepper.Address

/-!
What a debugger reports while it works. Spans cover a stretch of work and hold what was reported
during it; events are single points. A trace is kept as this tree, and the flat view lists spans and
events in the order in which they began, each with the names of the spans around it.
-/
namespace Stepper

inductive Level where
  | info
  | debug
  | trace
deriving DecidableEq

inductive Span where
  | load (imageSize : Nat)
  | step (pc : Address)
  | run
deriving DecidableEq

inductive Event where
  | loaded (extent : Extent) (symbols droppedBreakpoints : Nat)
  | duplicateLabel (label : String) (previous addr : Address)
  | halted
  | breakpointHit (pc : Address)
  | stepLimitReached (limit : UInt64)
  | breakpointSet (addr : Address) (added : Bool)
  | breakpointRemoved (addr : Address) (removed : Bool)
deriving DecidableEq

inductive Trace where
  | event (event : Event)
  | span (span : Span) (inner : List Trace)

/-- A value with what was reported while it was made. -/
structure Traced (α : Type) where
  value : α
  trace : List Trace

namespace Traced

/-- What is made first is reported first. -/
instance : Monad Traced where
  pure value := ⟨value, []⟩
  bind made next := ⟨(next made.value).value, made.trace ++ (next made.value).trace⟩

variable {α β : Type}

@[simp] theorem value_pure (value : α) : (pure value : Traced α).value = value := rfl

@[simp] theorem trace_pure (value : α) : (pure value : Traced α).trace = [] := rfl

@[simp] theorem value_bind (made : Traced α) (next : α → Traced β) :
    (made >>= next).value = (next made.value).value := rfl

@[simp] theorem trace_bind (made : Traced α) (next : α → Traced β) :
    (made >>= next).trace = made.trace ++ (next made.value).trace := rfl

@[simp] theorem value_map (f : α → β) (made : Traced α) : (f <$> made).value = f made.value := rfl

@[simp] theorem trace_map (f : α → β) (made : Traced α) : (f <$> made).trace = made.trace :=
  List.append_nil made.trace

@[ext] theorem ext {made other : Traced α} (value : made.value = other.value)
    (trace : made.trace = other.trace) : made = other := by
  cases made
  cases other
  cases value
  cases trace
  rfl

theorem map_ok_inj {ε : Type} {made other : Traced α}
    (same : (Except.ok <$> made : Traced (Except ε α)) = Except.ok <$> other) : made = other := by
  have trace := congrArg Traced.trace same
  rw [trace_map, trace_map] at trace
  exact ext (Except.ok.inj (congrArg Traced.value same)) trace

theorem eq_map_ok {ε : Type} {made : Traced (Except ε α)} {value : α}
    (accepted : made.value = .ok value) : made = Except.ok <$> ⟨value, made.trace⟩ :=
  ext accepted (trace_map Except.ok ⟨value, made.trace⟩).symm

instance : LawfulMonad Traced :=
  .mk' Traced (fun made => ext rfl (trace_map id made)) (fun _ _ => rfl)
    (fun made next last => ext rfl (List.append_assoc made.trace _ _))

end Traced

/-- A named value of a report, as text. -/
abbrev Field := String × String

def Field.ofBool (name : String) (value : Bool) : Field := (name, if value then "true" else "false")

namespace Span

def name : Span → String
  | .load _ => "Load"
  | .step _ => "Step"
  | .run => "Run"

def fields : Span → List Field
  | .load imageSize => [("image_len", Numeral.decimal imageSize)]
  | .step pc => [("pc", Numeral.decimal pc.toNat)]
  | .run => []

end Span

namespace Event

def message : Event → String
  | .loaded .. => "loaded"
  | .duplicateLabel .. => "duplicate label, keeping last"
  | .halted => "program halted"
  | .breakpointHit _ => "breakpoint hit"
  | .stepLimitReached _ => "step limit reached"
  | .breakpointSet .. => "set breakpoint"
  | .breakpointRemoved .. => "remove breakpoint"

def level : Event → Level
  | .breakpointSet .. => .trace
  | .breakpointRemoved .. => .trace
  | _ => .debug

def fields : Event → List Field
  | .loaded extent symbols dropped =>
    [("start", extent.start.text), ("end", extent.stop.text),
      ("symbols", Numeral.decimal symbols), ("dropped_breakpoints", Numeral.decimal dropped)]
  | .duplicateLabel label previous addr =>
    [("label", label), ("prev", previous.text), ("addr", addr.text)]
  | .halted => []
  | .breakpointHit pc => [("pc", pc.text)]
  | .stepLimitReached limit => [("limit", Numeral.decimal limit.toNat)]
  | .breakpointSet addr added => [("addr", addr.text), Field.ofBool "added" added]
  | .breakpointRemoved addr removed => [("addr", addr.text), Field.ofBool "removed" removed]

end Event

/-- One line of the flat view. -/
structure Entry where
  /-- The names of the spans around the subject, the outermost first. -/
  path : List String
  subject : Span ⊕ Event

namespace Entry

def level (entry : Entry) : Level :=
  match entry.subject with
  | .inl _ => .info
  | .inr event => event.level

def fields (entry : Entry) : List Field :=
  match entry.subject with
  | .inl span => span.fields
  | .inr event => event.fields

end Entry

namespace Trace

mutual

def entriesWithin (path : List String) : Trace → List Entry
  | .event e => [⟨path, .inr e⟩]
  | .span s inner => ⟨path, .inl s⟩ :: flattenWithin (path ++ [s.name]) inner

def flattenWithin (path : List String) : List Trace → List Entry
  | [] => []
  | first :: rest => entriesWithin path first ++ flattenWithin path rest

end

def flatten (trace : List Trace) : List Entry := flattenWithin [] trace

theorem flattenWithin_append (path : List String) (front back : List Trace) :
    flattenWithin path (front ++ back) = flattenWithin path front ++ flattenWithin path back := by
  induction front with
  | nil => simp [flattenWithin]
  | cons first rest ih => simp [flattenWithin, ih]

end Trace
end Stepper
