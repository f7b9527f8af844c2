import Mathlib.Data.List.Basic
import Stepper.Proofs.SymbolTable.Nearest

/-!
Two sequences of declarations, one behind the other. What the second one declares counts, and what
it leaves out keeps the address that the first one gave it; new labels stand behind the old ones.
Only the tables of the two decide this, not how they came about.
-/
namespace Stepper.SymbolTable
open LabelMap

theorem lastAddress?_append (front back : List (String × Address)) (label : String) :
    lastAddress? (front ++ back) label =
      (lastAddress? back label).or (lastAddress? front label) := by
  unfold lastAddress?
  rw [List.filter_append, List.getLast?_append, Option.map_or]

theorem firstPlaces_append (front back : List (String × Address)) :
    firstPlaces (front ++ back) =
      firstPlaces front ++ (firstPlaces back).filter fun label => label ∉ firstPlaces front := by
  induction back using List.reverseRecOn with
  | nil => simp [firstPlaces]
  | append_singleton back pair ih =>
    rw [← List.append_assoc, firstPlaces_concat, firstPlaces_concat, ih]
    by_cases held : pair.1 ∈ firstPlaces front
    · by_cases repeated : pair.1 ∈ firstPlaces back <;> simp [held, repeated]
    · by_cases repeated : pair.1 ∈ firstPlaces back <;> simp [held, repeated]

/-- A table is decided by the order of its labels and their addresses. -/
theorem ext_of_labels {left right : SymbolTable} (labels : left.labels = right.labels)
    (resolve : ∀ label, left.resolve label = right.resolve label) : left = right := by
  rw [← left.indexed_toLabelMap, LabelMap.ext_of_labels labels resolve, right.indexed_toLabelMap]

/-- The table that declares the entries of the second table behind those of the first. -/
def merge (front back : SymbolTable) : SymbolTable :=
  (ofPairs (front.entries ++ back.entries)).value

theorem resolve_merge (front back : SymbolTable) (label : String) :
    (front.merge back).resolve label = (back.resolve label).or (front.resolve label) := by
  rw [merge, resolve_ofPairs, lastAddress?_append]
  simp only [← resolve_ofPairs, ofPairs_entries]

theorem labels_merge (front back : SymbolTable) :
    (front.merge back).labels =
      front.labels ++ back.labels.filter fun label => label ∉ front.labels := by
  rw [merge, labels_ofPairs, firstPlaces_append]
  simp only [← labels_ofPairs, ofPairs_entries]

theorem ofPairs_append (front back : List (String × Address)) :
    (ofPairs (front ++ back)).value = (ofPairs front).value.merge (ofPairs back).value := by
  refine ext_of_labels ?_ fun label => ?_
  · rw [labels_ofPairs, firstPlaces_append, labels_merge, labels_ofPairs, labels_ofPairs]
  · rw [resolve_ofPairs, lastAddress?_append, resolve_merge, resolve_ofPairs, resolve_ofPairs]

/-- How a table answers that is made of two others. -/
structure Merges (merged front back : SymbolTable) : Prop where
  redeclared : ∀ label, back.contains label = true → merged.resolve label = back.resolve label
  kept : ∀ label, back.contains label = false → merged.resolve label = front.resolve label
  labels : merged.labels = front.labels ++ back.labels.filter fun label => label ∉ front.labels
  labelAt : ∀ addr, merged.labelAt addr =
    (front.labels ++ back.labels.filter fun label => label ∉ front.labels).find? fun label =>
      (back.resolve label).or (front.resolve label) == some addr
  moved : ∀ label old addr, front.resolve label = some old → back.resolve label = some addr →
    old ≠ addr → merged.labelAt old ≠ some label

theorem merges_merge (front back : SymbolTable) : (front.merge back).Merges front back where
  redeclared := by
    intro label held
    obtain ⟨addr, resolved⟩ := Option.isSome_iff_exists.1 held
    rw [resolve_merge, resolved]
    rfl
  kept := by
    intro label missing
    have fresh := Option.isNone_iff_eq_none.1 (Option.isSome_eq_false_iff.1 missing)
    rw [resolve_merge, fresh]
    rfl
  labels := labels_merge front back
  labelAt := by
    intro addr
    simp only [labelAt_eq, labels_merge, resolve_merge]
  moved := by
    intro label old addr _ resolved apart named
    have first := (labelAt_eq_some_iff.1 named).resolved
    rw [resolve_merge, resolved] at first
    exact apart (Option.some.inj first).symm

end Stepper.SymbolTable
