import Mathlib.Data.List.Nodup
import Mathlib.Data.List.Perm.Subperm
import Stepper.SymbolTable.LabelMap

/-!
A label map is decided by the order of its labels and their addresses. A declaration gives its label
the address and leaves all others alone, and it makes the list longer only if the label is new.
Equality asks for the addresses only.
-/
namespace Stepper.LabelMap

/-- The labels in the order of the list. -/
def labels (map : LabelMap) : List String := map.entries.map Prod.fst

section Lookup

variable {map left right : LabelMap} {label : String} {addr : Address}

theorem resolve_eq_some_iff : map.resolve label = some addr ↔ (label, addr) ∈ map.entries := by
  rw [resolve, List.lookup_eq_some_iff]
  constructor
  · rintro ⟨front, back, split, _⟩
    simp [split]
  · intro held
    obtain ⟨front, back, split⟩ := List.append_of_mem held
    refine ⟨front, back, split, fun entry earlier => bne_iff_ne.2 fun same => ?_⟩
    have nodup := map.labels_nodup
    rw [split, List.map_append, List.map_cons, List.nodup_append] at nodup
    exact nodup.2.2 entry.1 (List.mem_map_of_mem earlier) label List.mem_cons_self same.symm

theorem isSome_resolve_iff : (map.resolve label).isSome ↔ label ∈ map.labels := by
  rw [Option.isSome_iff_ne_none, Ne, resolve_eq_none_iff, Decidable.not_not]
  rfl

theorem nodup_entries (map : LabelMap) : map.entries.Nodup :=
  List.Nodup.of_map Prod.fst map.labels_nodup

theorem resolve_eq_of_perm (perm : left.entries.Perm right.entries) (label : String) :
    left.resolve label = right.resolve label := by
  apply Option.ext
  intro addr
  rw [resolve_eq_some_iff, resolve_eq_some_iff, perm.mem_iff]

theorem perm_of_resolve_eq (same : ∀ label, left.resolve label = right.resolve label) :
    left.entries.Perm right.entries := by
  rw [List.perm_ext_iff_of_nodup left.nodup_entries right.nodup_entries]
  rintro ⟨label, addr⟩
  rw [← resolve_eq_some_iff, ← resolve_eq_some_iff, same]

/-- Only one of the maps is searched, and the sizes say that the other one has no more labels. -/
theorem beq_iff : (left == right) = true ↔ ∀ label, left.resolve label = right.resolve label := by
  have compared : (left == right) = true ↔ left.size = right.size ∧
      ∀ entry ∈ left.entries, right.resolve entry.1 = some entry.2 := by
    change (_ && _) = true ↔ _
    simp only [Bool.and_eq_true, List.all_eq_true, beq_iff_eq]
  rw [compared]
  constructor
  · rintro ⟨size, held⟩
    have subset : left.entries ⊆ right.entries := fun entry member =>
      resolve_eq_some_iff.1 (held entry member)
    have subperm := List.subperm_of_subset left.nodup_entries subset
    exact resolve_eq_of_perm (subperm.perm_of_length_le (Nat.le_of_eq size.symm))
  · intro same
    refine ⟨(perm_of_resolve_eq same).length_eq, fun entry member => ?_⟩
    rw [← same, resolve_eq_some_iff.2 member]

theorem entries_eq (map : LabelMap) : map.entries =
    map.labels.filterMap fun label => (map.resolve label).map fun addr => (label, addr) := by
  have each : ∀ entry ∈ map.entries,
      some entry = (map.resolve entry.1).map fun addr => (entry.1, addr) := by
    intro entry held
    rw [resolve_eq_some_iff.2 held]
    rfl
  calc
    map.entries = map.entries.filterMap some := List.filterMap_some.symm
    _ = map.entries.filterMap fun entry =>
        (map.resolve entry.1).map fun addr => (entry.1, addr) := List.filterMap_congr each
    _ = _ := by
      rw [labels, List.filterMap_map]
      rfl

theorem ext_of_labels (labels : left.labels = right.labels)
    (resolve : ∀ label, left.resolve label = right.resolve label) : left = right := by
  have entries : left.entries = right.entries := by
    rw [left.entries_eq, right.entries_eq, labels]
    simp only [resolve]
  cases left
  cases right
  cases entries
  rfl

end Lookup

/-! One declaration. -/

section Declaring

variable (map : LabelMap) (label other : String) (addr : Address)

theorem labels_move : (map.move label addr).labels = map.labels := by
  unfold labels move
  rw [List.map_map]
  apply List.map_congr_left
  intro entry _
  dsimp only [Function.comp_apply]
  split <;> rfl

theorem resolve_move (held : (map.resolve label).isSome) :
    (map.move label addr).resolve other =
      if other = label then some addr else map.resolve other := by
  apply Option.ext
  intro found
  rw [resolve_eq_some_iff]
  simp only [move, List.mem_map, Prod.exists]
  split
  · next same =>
    obtain ⟨previous, resolved⟩ := Option.isSome_iff_exists.1 held
    rw [resolve_eq_some_iff] at resolved
    grind
  · next different =>
    rw [resolve_eq_some_iff]
    grind

theorem resolve_add (fresh : map.resolve label = none) :
    (map.add label addr fresh).resolve other =
      if other = label then some addr else map.resolve other := by
  rw [resolve, add, List.lookup_append, ← resolve]
  split
  · next same => simp [same, fresh]
  · next different => simp [List.lookup_cons, beq_false_of_ne different]

theorem declare_of_fresh (fresh : map.resolve label = none) :
    map.declare label addr = (none, map.add label addr fresh) := by
  unfold declare
  split
  · rfl
  · next previous resolved =>
    rw [fresh] at resolved
    cases resolved

theorem declare_of_held {previous : Address} (resolved : map.resolve label = some previous) :
    map.declare label addr = (some previous, map.move label addr) := by
  unfold declare
  split
  · next fresh =>
    rw [resolved] at fresh
    cases fresh
  · next other found => rw [Option.some.inj (found.symm.trans resolved)]

theorem declare_fst : (map.declare label addr).1 = map.resolve label := by
  cases resolved : map.resolve label with
  | none => rw [declare_of_fresh _ _ _ resolved]
  | some previous => rw [declare_of_held _ _ _ resolved]

theorem resolve_declare : (map.declare label addr).2.resolve other =
    if other = label then some addr else map.resolve other := by
  cases resolved : map.resolve label with
  | none =>
    rw [declare_of_fresh _ _ _ resolved]
    exact resolve_add map label other addr resolved
  | some previous =>
    rw [declare_of_held _ _ _ resolved]
    exact resolve_move map label other addr (Option.isSome_of_eq_some resolved)

theorem labels_declare : (map.declare label addr).2.labels =
    if label ∈ map.labels then map.labels else map.labels ++ [label] := by
  cases resolved : map.resolve label with
  | none =>
    have missing : label ∉ map.labels := resolve_eq_none_iff.1 resolved
    rw [declare_of_fresh _ _ _ resolved, if_neg missing]
    exact List.map_append
  | some previous =>
    have held := isSome_resolve_iff.1 (Option.isSome_of_eq_some resolved)
    rw [declare_of_held _ _ _ resolved, if_pos held]
    exact labels_move map label addr

end Declaring

end Stepper.LabelMap
