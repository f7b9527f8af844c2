import Stepper.Proofs.Debugger.Loading
import Stepper.Proofs.SymbolTable.Nearest

/-!
Equal tables are those that answer alike. The order of the list decides nothing but which of several
labels an address goes by, so tables are equal as soon as they agree on that and on the address of
every label. A debugger takes either of two equal tables for a program, or neither.
-/
namespace Stepper

namespace SymbolTable
open LabelMap

variable {left right : SymbolTable}

/-- Every label has the same address in both tables, and every address the same label. -/
structure Agree (left right : SymbolTable) : Prop where
  resolve : ∀ label, left.resolve label = right.resolve label
  labelAt : ∀ addr, left.labelAt addr = right.labelAt addr

theorem labelAt_eq_none_of_resolve_eq (same : ∀ label, left.resolve label = right.resolve label)
    {addr : Address} (unlabelled : left.labelAt addr = none) : right.labelAt addr = none := by
  rw [labelAt_eq_none_iff] at unlabelled ⊢
  intro label
  rw [← same]
  exact unlabelled label

/-- What is compared are the two maps, and each is decided by how it answers. -/
theorem beq_iff_agree : (left == right) = true ↔ left.Agree right := by
  rw [beq_iff]
  constructor
  · rintro ⟨resolve, index⟩
    exact ⟨resolve, fun addr => congrArg (AddressIndex.get? · addr) index⟩
  · rintro ⟨resolve, labelAt⟩
    exact ⟨resolve, AddressIndex.ext_of_get? labelAt⟩

theorem Agree.perm (agree : left.Agree right) : left.entries.Perm right.entries :=
  perm_of_resolve_eq agree.resolve

theorem Agree.symm (agree : left.Agree right) : right.Agree left :=
  ⟨fun label => (agree.resolve label).symm, fun addr => (agree.labelAt addr).symm⟩

theorem Agree.nearest (agree : left.Agree right) {addr base : Address}
    (nearest : left.Nearest addr base) : right.Nearest addr base := by
  obtain ⟨labelled, le, noneBetween⟩ := nearest
  simp only [agree.resolve] at labelled noneBetween
  exact ⟨labelled, le, noneBetween⟩

theorem Agree.nearest_iff (agree : left.Agree right) {addr base : Address} :
    left.Nearest addr base ↔ right.Nearest addr base :=
  ⟨agree.nearest, agree.symm.nearest⟩

theorem Agree.symbolize (agree : left.Agree right) (addr : Address) :
    left.symbolize addr = right.symbolize addr := by
  apply Option.ext
  rintro ⟨label, offset⟩
  simp only [symbolize_eq_some_iff, agree.nearest_iff, agree.labelAt]

/-- What else is the same in two tables that are equal. -/
structure AnswersLike (left right : SymbolTable) : Prop where
  contains : ∀ label, left.contains label = right.contains label
  size : left.size = right.size
  isEmpty : left.isEmpty = right.isEmpty
  symbolize : ∀ addr, left.symbolize addr = right.symbolize addr
  entries : left.entries.Perm right.entries

theorem Agree.answersLike (agree : left.Agree right) : left.AnswersLike right where
  contains := by
    intro label
    rw [LabelMap.contains, LabelMap.contains, agree.resolve]
  size := agree.perm.length_eq
  isEmpty := agree.perm.isEmpty_eq
  symbolize := agree.symbolize
  entries := agree.perm

/-! Sequences of declarations that make equal tables. -/

/-- Of the labels that end up at an address the one that is declared first. -/
def firstLabel? (pairs : List (String × Address)) (addr : Address) : Option String :=
  (firstPlaces pairs).find? fun label => lastAddress? pairs label == some addr

theorem labelAt_ofPairs (pairs : List (String × Address)) (addr : Address) :
    (ofPairs pairs).value.labelAt addr = firstLabel? pairs addr :=
  (madeOf_ofPairs pairs).labelAt addr

/-- No two labels end up at one address. -/
def Apart (pairs : List (String × Address)) : Prop :=
  ∀ label other addr, lastAddress? pairs label = some addr →
    lastAddress? pairs other = some addr → label = other

theorem labelAt_eq_of_unshared (same : ∀ label, left.resolve label = right.resolve label)
    (unshared : ∀ label other addr, left.resolve label = some addr →
      left.resolve other = some addr → label = other) (addr : Address) :
    left.labelAt addr = right.labelAt addr := by
  cases first : left.labelAt addr with
  | none => exact (labelAt_eq_none_of_resolve_eq same first).symm
  | some label =>
    cases other : right.labelAt addr with
    | none =>
      rw [labelAt_eq_none_of_resolve_eq (fun label => (same label).symm) other] at first
      cases first
    | some found =>
      have resolved := (labelAt_eq_some_iff.1 first).resolved
      have alsoResolved := (labelAt_eq_some_iff.1 other).resolved
      rw [← same] at alsoResolved
      rw [unshared label found addr resolved alsoResolved]

/-- When two sequences of declarations make equal tables, and what equality means. -/
structure EqualityLaws (xs ys : List (String × Address)) : Prop where
  agreement : ((ofPairs xs).value == (ofPairs ys).value) = true ↔
    (ofPairs xs).value.Agree (ofPairs ys).value
  answers : ((ofPairs xs).value == (ofPairs ys).value) = true →
    (ofPairs xs).value.AnswersLike (ofPairs ys).value
  apart : (∀ label, lastAddress? xs label = lastAddress? ys label) → Apart xs →
    ((ofPairs xs).value == (ofPairs ys).value) = true
  shared : (∀ label, lastAddress? xs label = lastAddress? ys label) →
    (((ofPairs xs).value == (ofPairs ys).value) = true ↔
      ∀ addr, firstLabel? xs addr = firstLabel? ys addr)

theorem equalityLaws (xs ys : List (String × Address)) : EqualityLaws xs ys where
  agreement := beq_iff_agree
  answers := fun equal => (beq_iff_agree.1 equal).answersLike
  apart := by
    intro same apart
    simp only [Apart, ← resolve_ofPairs] at same apart
    exact beq_iff_agree.2 ⟨same, labelAt_eq_of_unshared same apart⟩
  shared := by
    intro same
    simp only [← resolve_ofPairs, ← labelAt_ofPairs] at same ⊢
    rw [beq_iff_agree]
    exact ⟨Agree.labelAt, Agree.mk same⟩

end SymbolTable

namespace Debugger

variable {σ ε : Type} [Engine σ ε] {left right : SymbolTable}

/-- Two loads end in the same way. If there are symbols outside of the program, they may name
different ones. -/
inductive SameFate : Except (Error ε) Unit → Except (Error ε) Unit → Prop where
  | same (result : Except (Error ε) Unit) : SameFate result result
  | outOfRange (label other : String) (addr otherAddr : Address) :
    SameFate (.error (.load (.symbolOutOfRange label addr)))
      (.error (.load (.symbolOutOfRange other otherAddr)))

theorem SameFate.ok_iff {one another : Except (Error ε) Unit} (fate : SameFate one another) :
    one = .ok () ↔ another = .ok () := by
  cases fate with
  | same => exact Iff.rfl
  | outOfRange => exact ⟨nofun, nofun⟩

theorem strayed?_eq_none_of_perm (perm : left.entries.Perm right.entries) {extent : Extent}
    (within : strayed? left extent = none) : strayed? right extent = none := by
  rw [strayed?_eq_none_iff] at within ⊢
  intro entry held
  exact within entry (perm.mem_iff.2 held)

theorem loadImage_sameFate (agree : left.Agree right) (d : Debugger σ) (image : Image) :
    SameFate (d.loadImage image left : Outcome σ ε Unit).result
      (d.loadImage image right).result := by
  unfold loadImage
  dsimp only
  cases Engine.extent d.engine image with
  | error fault => exact .same _
  | ok extent =>
    dsimp only
    cases strayed : strayed? left extent with
    | none =>
      rw [strayed?_eq_none_of_perm agree.perm strayed]
      dsimp only
      split <;> exact .same _
    | some entry =>
      cases also : strayed? right extent with
      | none =>
        rw [strayed?_eq_none_of_perm agree.perm.symm also] at strayed
        cases strayed
      | some other => exact .outOfRange entry.1 other.1 entry.2 other.2

end Debugger

namespace SymbolTable
open Debugger LabelMap

theorem equality_is_agreement :
    (∀ xs ys : List (String × Address), EqualityLaws xs ys) ∧
    (∀ {σ ε : Type} [Engine σ ε] (d : Debugger σ) (image : Image) (left right : SymbolTable),
      (left == right) = true →
        ((d.loadImage image left : Outcome σ ε Unit).result = .ok () ↔
          (d.loadImage image right : Outcome σ ε Unit).result = .ok ()) ∧
        SameFate (d.loadImage image left : Outcome σ ε Unit).result
          (d.loadImage image right).result) := by
  refine ⟨equalityLaws, fun d image left right equal => ?_⟩
  have fate := loadImage_sameFate (beq_iff_agree.1 equal) d image
  exact ⟨fate.ok_iff, fate⟩

/-- Two labels in either order, and a program without words for them. -/
theorem reordered_is_equal :
    let xs : List (String × Address) := [("loop", 5), ("done", 6)]
    let ys : List (String × Address) := [("done", 6), ("loop", 5)]
    let d := ofEngine (WordMachine.start []) .standard
    Apart xs ∧ ((ofPairs xs).value == (ofPairs ys).value) = true ∧
      (ofPairs xs).value.AnswersLike (ofPairs ys).value ∧
      (d.loadImage [] (ofPairs xs).value).result = .error (.load (.symbolOutOfRange "loop" 5)) ∧
      (d.loadImage [] (ofPairs ys).value).result = .error (.load (.symbolOutOfRange "done" 6)) ∧
      SameFate (d.loadImage [] (ofPairs xs).value).result
        (d.loadImage [] (ofPairs ys).value).result := by
  intro xs ys d
  have perm : (ofPairs xs).value.entries.Perm (ofPairs ys).value.entries := .swap _ _ []
  have same : ∀ label, lastAddress? xs label = lastAddress? ys label := by
    simpa only [resolve_ofPairs] using resolve_eq_of_perm perm
  have apart : Apart xs := by
    intro label other addr first second
    rw [← resolve_ofPairs, resolve_eq_some_iff] at first second
    change (_, _) ∈ xs at first second
    grind
  obtain ⟨tables, loads⟩ := equality_is_agreement
  have equal := (tables xs ys).apart same apart
  exact ⟨apart, equal, (tables xs ys).answers equal, rfl, rfl, (loads d [] _ _ equal).2⟩

end SymbolTable

end Stepper
