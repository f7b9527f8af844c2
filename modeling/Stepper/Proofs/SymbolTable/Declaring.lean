import Stepper.Proofs.SymbolTable.Indexing
import Stepper.Proofs.SymbolTable.Labels
import Stepper.SymbolTable.Basic
import Mathlib.Data.List.Find
import Mathlib.Data.List.Induction

/-!
A sequence of declarations decides a table. The last declaration of a label gives its address and
the first one its place in the list, and an address goes by the first label in the list that ends up
there. A table is the table of its own entries.
-/
namespace Stepper.SymbolTable
open LabelMap

/-- The declared labels without repetition, each where it occurs first. -/
def firstPlaces (pairs : List (String × Address)) : List String := (pairs.map Prod.fst).eraseDups

/-- The address of the last declaration of a label. -/
def lastAddress? (pairs : List (String × Address)) (label : String) : Option Address :=
  ((pairs.filter fun pair => pair.1 == label).getLast?).map Prod.snd

section Lookup

variable {table : SymbolTable} {label : String} {addr : Address}

@[simp] theorem toLabelMap_indexed (labels : LabelMap) : (indexed labels).toLabelMap = labels := rfl

theorem indexed_toLabelMap (table : SymbolTable) : indexed table.toLabelMap = table := by
  rcases table with ⟨labels, index, rfl⟩
  rfl

/-- The index names an address by the first entry of the list that is there. -/
theorem labelAt_eq_find? : table.labelAt addr =
    (table.entries.find? fun entry => entry.2 == addr).map Prod.fst := by
  rw [labelAt, table.index_eq, AddressIndex.get?_ofEntries]

/-- The first label at an address, found without the addresses of the list. -/
theorem labelAt_eq : table.labelAt addr =
    table.labels.find? fun label => table.resolve label == some addr := by
  rw [labelAt_eq_find?, labels, List.find?_map]
  apply congrArg (Option.map Prod.fst)
  apply List.find?_congr
  intro entry held
  rw [Function.comp_apply, resolve_eq_some_iff.2 held]
  rfl

theorem labelAt_eq_none_iff : table.labelAt addr = none ↔
    ∀ label, table.resolve label ≠ some addr := by
  rw [labelAt_eq, List.find?_eq_none]
  constructor
  · intro others label resolved
    exact others label (isSome_resolve_iff.1 (Option.isSome_of_eq_some resolved))
      (beq_iff_eq.2 resolved)
  · intro others label _ resolved
    exact others label (beq_iff_eq.1 resolved)

theorem labelAt_ne_none_iff :
    table.labelAt addr ≠ none ↔ ∃ label, table.resolve label = some addr := by
  rw [Ne, labelAt_eq_none_iff]
  simp only [not_forall, not_not]

/-- The index has the addresses of the labels and no others. -/
theorem mem_index_iff : addr ∈ table.index.entries.map Prod.fst ↔
    ∃ label, table.resolve label = some addr := by
  rw [← labelAt_ne_none_iff, labelAt, Option.ne_none_iff_exists', List.mem_map]
  simp only [AddressIndex.get?_eq_some_iff, Prod.exists, exists_and_right, exists_eq_right]

theorem beq_iff {left right : SymbolTable} : (left == right) = true ↔
    (∀ label, left.resolve label = right.resolve label) ∧ left.index = right.index := by
  change (left.toLabelMap == right.toLabelMap && left.index == right.index) = true ↔ _
  rw [Bool.and_eq_true, LabelMap.beq_iff, beq_iff_eq]

theorem beq_self (table : SymbolTable) : (table == table) = true :=
  beq_iff.2 ⟨fun _ => rfl, rfl⟩

end Lookup

/-! A sequence of declarations, by one declaration more at its end. -/

theorem declareTraced_eq (labels : LabelMap) (pair : String × Address) :
    declareTraced labels pair =
      ⟨(labels.declare pair.1 pair.2).2, (labels.resolve pair.1).toList.map fun previous =>
        .event (.duplicateLabel pair.1 previous pair.2)⟩ := by
  rw [← declare_fst _ _ pair.2]
  unfold declareTraced
  split <;> next declared => rw [declared]; rfl

theorem ofPairs_concat (pairs : List (String × Address)) (pair : String × Address) :
    ofPairs (pairs ++ [pair]) =
      ⟨indexed ((ofPairs pairs).value.declare pair.1 pair.2).2,
        (ofPairs pairs).trace ++ ((ofPairs pairs).value.resolve pair.1).toList.map fun previous =>
          .event (.duplicateLabel pair.1 previous pair.2)⟩ := by
  unfold ofPairs
  rw [List.foldlM_append]
  simp only [List.foldlM_cons, List.foldlM_nil, bind_pure, declareTraced_eq]
  apply Traced.ext
  · rfl
  · simp only [Traced.trace_map, Traced.trace_bind, Traced.value_map, toLabelMap_indexed]

theorem lastAddress?_concat (pairs : List (String × Address)) (pair : String × Address)
    (label : String) : lastAddress? (pairs ++ [pair]) label =
      if label = pair.1 then some pair.2 else lastAddress? pairs label := by
  unfold lastAddress?
  rw [List.filter_append]
  by_cases same : label = pair.1
  · simp [same]
  · simp [same, Ne.symm same]

theorem firstPlaces_concat (pairs : List (String × Address)) (pair : String × Address) :
    firstPlaces (pairs ++ [pair]) =
      if pair.1 ∈ firstPlaces pairs then firstPlaces pairs else firstPlaces pairs ++ [pair.1] := by
  unfold firstPlaces
  rw [List.map_append, List.map_cons, List.map_nil]
  generalize pairs.map Prod.fst = labels
  rw [List.eraseDups_append]
  by_cases held : pair.1 ∈ labels
  · rw [if_pos (List.mem_eraseDups.2 held)]
    simp [List.removeAll, held]
  · rw [if_neg (mt List.mem_eraseDups.1 held)]
    simp [List.removeAll, held, List.eraseDups_cons]

theorem resolve_ofPairs (pairs : List (String × Address)) (label : String) :
    (ofPairs pairs).value.resolve label = lastAddress? pairs label := by
  induction pairs using List.reverseRecOn with
  | nil => rfl
  | append_singleton pairs pair ih =>
    rw [ofPairs_concat, toLabelMap_indexed, resolve_declare, lastAddress?_concat, ih]

theorem labels_ofPairs (pairs : List (String × Address)) :
    (ofPairs pairs).value.labels = firstPlaces pairs := by
  induction pairs using List.reverseRecOn with
  | nil => rfl
  | append_singleton pairs pair ih =>
    rw [ofPairs_concat, toLabelMap_indexed, labels_declare, firstPlaces_concat, ih]

/-- Pairs without repeated labels are the entries of their table, and none is reported. -/
theorem ofPairs_of_nodup {pairs : List (String × Address)} (nodup : (pairs.map Prod.fst).Nodup) :
    ofPairs pairs = ⟨indexed ⟨pairs, nodup⟩, []⟩ := by
  induction pairs using List.reverseRecOn with
  | nil => rfl
  | append_singleton pairs pair ih =>
    rw [List.map_append, List.nodup_append] at nodup
    have before := ih nodup.1
    have fresh : (LabelMap.mk pairs nodup.1).resolve pair.1 = none :=
      resolve_eq_none_iff.2 fun held => nodup.2.2 _ held _ (List.mem_singleton_self _) rfl
    rw [ofPairs_concat, before]
    dsimp only
    rw [toLabelMap_indexed, declare_of_fresh _ _ _ fresh, fresh]
    rfl

theorem ofPairs_entries (table : SymbolTable) : ofPairs table.entries = ⟨table, []⟩ := by
  rw [ofPairs_of_nodup table.labels_nodup]
  exact congrArg (Traced.mk · []) table.indexed_toLabelMap

theorem mem_firstPlaces {pairs : List (String × Address)} {label : String} :
    label ∈ firstPlaces pairs ↔ label ∈ pairs.map Prod.fst := List.mem_eraseDups

theorem firstPlaces_eq_nil_iff {pairs : List (String × Address)} :
    firstPlaces pairs = [] ↔ pairs = [] := by
  constructor
  · intro empty
    rw [← List.map_eq_nil_iff, List.eq_nil_iff_forall_not_mem]
    intro label declared
    rw [← mem_firstPlaces, empty] at declared
    exact List.not_mem_nil declared
  · rintro rfl
    rfl

/-- What a table tells of the declarations that it was made of. -/
structure MadeOf (table : SymbolTable) (pairs : List (String × Address)) : Prop where
  resolve : ∀ label, table.resolve label = lastAddress? pairs label
  contains_iff_resolved : ∀ label, table.contains label ↔ (table.resolve label).isSome
  contains_iff_declared : ∀ label, table.contains label ↔ label ∈ pairs.map Prod.fst
  labels : table.entries.map Prod.fst = firstPlaces pairs
  distinct : (table.entries.map Prod.fst).Nodup
  addresses : ∀ entry ∈ table.entries, table.resolve entry.1 = some entry.2
  size : table.size = (firstPlaces pairs).length
  isEmpty : table.isEmpty ↔ pairs = []
  labelAt : ∀ addr, table.labelAt addr =
    (firstPlaces pairs).find? fun label => lastAddress? pairs label == some addr
  unnamed : ∀ addr, table.labelAt addr = none ↔ ∀ label, lastAddress? pairs label ≠ some addr
  indexed : ∀ addr, addr ∈ table.index.entries.map Prod.fst ↔
    ∃ label, lastAddress? pairs label = some addr

theorem madeOf_ofPairs (pairs : List (String × Address)) : MadeOf (ofPairs pairs).value pairs where
  resolve := resolve_ofPairs pairs
  contains_iff_resolved := fun _ => Iff.rfl
  contains_iff_declared := by
    intro label
    rw [LabelMap.contains, isSome_resolve_iff, labels_ofPairs, mem_firstPlaces]
  labels := labels_ofPairs pairs
  distinct := (ofPairs pairs).value.labels_nodup
  addresses := fun _ held => resolve_eq_some_iff.2 held
  size := by rw [← labels_ofPairs, LabelMap.labels, List.length_map, LabelMap.size]
  isEmpty := by
    rw [← firstPlaces_eq_nil_iff, ← labels_ofPairs, LabelMap.labels, List.map_eq_nil_iff,
      LabelMap.isEmpty, List.isEmpty_iff]
  labelAt := by
    intro addr
    simp only [labelAt_eq, labels_ofPairs, resolve_ofPairs]
  unnamed := by
    intro addr
    simp only [labelAt_eq_none_iff, resolve_ofPairs]
  indexed := by
    intro addr
    simp only [mem_index_iff, resolve_ofPairs]

theorem declarations_decide_table (pairs : List (String × Address)) :
    let table := (ofPairs pairs).value
    MadeOf table pairs ∧
      ofPairs table.entries = ⟨table, []⟩ ∧ ((ofPairs table.entries).value == table) = true := by
  intro table
  refine ⟨madeOf_ofPairs pairs, ofPairs_entries table, ?_⟩
  rw [ofPairs_entries]
  exact beq_self table

/-- Moving a label away leaves no name behind, and it keeps its place before the other label. -/
example :
    let table := (ofPairs [("loop", 1), ("done", 2), ("loop", 2)]).value
    table.labelAt 1 = none ∧ table.labelAt 2 = some "loop" := by decide

end Stepper.SymbolTable
