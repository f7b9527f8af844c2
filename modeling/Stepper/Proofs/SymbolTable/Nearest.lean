import Stepper.Proofs.SymbolTable.Declaring

/-!
The label that names an address is the closest one at or below it. Only the addresses that labels
have in the end count, and of several labels at the closest of them the first in the list is taken.
-/
namespace Stepper.SymbolTable
open LabelMap

variable {table : SymbolTable} {label : String} {addr base : Address}

/-- The greatest address of a label at or below another address. -/
structure Nearest (table : SymbolTable) (addr base : Address) : Prop where
  labelled : ∃ label, table.resolve label = some base
  le : base ≤ addr
  noneBetween : ∀ label other, table.resolve label = some other → ¬ (base < other ∧ other ≤ addr)

/-- No label earlier in the list has the same address. -/
structure FirstAt (table : SymbolTable) (label : String) (addr : Address) : Prop where
  resolved : table.resolve label = some addr
  first : ∃ front back, table.labels = front ++ label :: back ∧
    ∀ earlier ∈ front, table.resolve earlier ≠ some addr

theorem Nearest.le_of_le {lower upper above below : Address} (nearest : table.Nearest lower below)
    (further : table.Nearest upper above) (le : lower ≤ upper) : below ≤ above := by
  obtain ⟨label, resolved⟩ := nearest.labelled
  by_contra beyond
  exact further.noneBetween label below resolved
    ⟨UInt32.not_le.1 beyond, UInt32.le_trans nearest.le le⟩

theorem Nearest.unique {other : Address} (nearest : table.Nearest addr base)
    (also : table.Nearest addr other) : base = other :=
  UInt32.le_antisymm (nearest.le_of_le also (UInt32.le_refl addr))
    (also.le_of_le nearest (UInt32.le_refl addr))

theorem nearest_self : table.Nearest addr addr ↔ ∃ label, table.resolve label = some addr := by
  refine ⟨Nearest.labelled, fun labelled => ⟨labelled, UInt32.le_refl addr, ?_⟩⟩
  rintro label other _ ⟨above, below⟩
  exact UInt32.not_lt.2 below above

theorem labelAt_eq_some_iff : table.labelAt addr = some label ↔ table.FirstAt label addr := by
  rw [labelAt_eq, List.find?_eq_some_iff_append]
  simp only [beq_iff_eq, Bool.not_eq_true', beq_eq_false_iff_ne]
  exact ⟨fun ⟨resolved, first⟩ => ⟨resolved, first⟩, fun ⟨resolved, first⟩ => ⟨resolved, first⟩⟩

/-- The last entry of the index up to an address is the one of the closest label. -/
theorem nearest_of_floor? (found : table.index.floor? addr = some (base, label)) :
    table.Nearest addr base ∧ table.labelAt base = some label := by
  obtain ⟨first, le, greatest⟩ := AddressIndex.nearest_of_floor? found
  refine ⟨⟨⟨label, (labelAt_eq_some_iff.1 first).resolved⟩, le, ?_⟩, first⟩
  rintro other between resolved ⟨above, below⟩
  obtain ⟨named, indexed⟩ := Option.ne_none_iff_exists'.1 (labelAt_ne_none_iff.2 ⟨other, resolved⟩)
  exact UInt32.not_lt.2 (greatest between named indexed below) above

theorem floor?_index_eq_none_iff : table.index.floor? addr = none ↔
    ∀ label base, table.resolve label = some base → addr < base := by
  rw [AddressIndex.floor?_eq_none_iff]
  constructor
  · intro above label base resolved
    obtain ⟨first, indexed⟩ :=
      Option.ne_none_iff_exists'.1 (labelAt_ne_none_iff.2 ⟨label, resolved⟩)
    exact above base first indexed
  · intro above base label first
    exact above label base (labelAt_eq_some_iff.1 first).resolved

theorem symbolize_eq_none_iff : table.symbolize addr = none ↔
    ∀ label base, table.resolve label = some base → addr < base := by
  rw [symbolize, Option.map_eq_none_iff, floor?_index_eq_none_iff]

theorem symbolize_eq_some_iff {offset : Word} : table.symbolize addr = some (label, offset) ↔
    ∃ base, table.Nearest addr base ∧ table.labelAt base = some label ∧
      base.toNat + offset.toNat = addr.toNat := by
  constructor
  · intro named
    rw [symbolize, Option.map_eq_some_iff] at named
    obtain ⟨⟨base, first⟩, found, same⟩ := named
    obtain ⟨rfl, rfl⟩ := Prod.mk.inj same
    obtain ⟨nearest, labelled⟩ := nearest_of_floor? found
    refine ⟨base, nearest, labelled, ?_⟩
    rw [UInt32.toNat_sub_of_le _ _ nearest.le]
    exact Nat.add_sub_cancel' (UInt32.le_iff_toNat_le.1 nearest.le)
  · rintro ⟨base, nearest, first, sum⟩
    cases found : table.index.floor? addr with
    | none =>
      obtain ⟨other, resolved⟩ := nearest.labelled
      have above := floor?_index_eq_none_iff.1 found other base resolved
      exact absurd nearest.le (UInt32.not_le.2 above)
    | some entry =>
      obtain ⟨also, firstFound⟩ := nearest_of_floor? found
      obtain rfl := nearest.unique also
      have same : entry.2 = label := Option.some.inj (firstFound.symm.trans first)
      have distance : addr - entry.1 = offset := by
        rw [← UInt32.toNat_inj, UInt32.toNat_sub_of_le _ _ nearest.le]
        omega
      rw [symbolize, found, Option.map_some, same, distance]

theorem labelAt_iff_symbolize :
    table.labelAt addr = some label ↔ table.symbolize addr = some (label, 0) := by
  rw [symbolize_eq_some_iff]
  constructor
  · intro first
    have resolved := (labelAt_eq_some_iff.1 first).resolved
    exact ⟨addr, nearest_self.2 ⟨label, resolved⟩, first, rfl⟩
  · rintro ⟨base, _, first, sum⟩
    rw [UInt32.toNat_zero, Nat.add_zero, UInt32.toNat_inj] at sum
    rwa [← sum]

theorem exists_symbolize_of_le {lower upper : Address} {offset : Word} (le : lower ≤ upper)
    (named : table.symbolize lower = some (label, offset)) :
    ∃ label' offset' base base', table.symbolize upper = some (label', offset') ∧
      table.resolve label = some base ∧ table.resolve label' = some base' ∧ base ≤ base' := by
  obtain ⟨base, nearest, first, _⟩ := symbolize_eq_some_iff.1 named
  have resolved := (labelAt_eq_some_iff.1 first).resolved
  cases further : table.symbolize upper with
  | none =>
    have above := symbolize_eq_none_iff.1 further label base resolved
    exact absurd (UInt32.le_trans nearest.le le) (UInt32.not_le.2 above)
  | some found =>
    obtain ⟨base', also, firstAbove, _⟩ := symbolize_eq_some_iff.1 further
    exact ⟨found.1, found.2, base, base', rfl, resolved,
      (labelAt_eq_some_iff.1 firstAbove).resolved, nearest.le_of_le also le⟩

/-- How a table names the addresses, also those without a label. -/
structure NamesNearest (table : SymbolTable) : Prop where
  unnamed : ∀ addr, table.symbolize addr = none ↔
    ∀ label base, table.resolve label = some base → addr < base
  named : ∀ addr label offset, table.symbolize addr = some (label, offset) ↔
    ∃ base, table.Nearest addr base ∧ table.FirstAt label base ∧
      base.toNat + offset.toNat = addr.toNat
  atLabel : ∀ addr label, table.labelAt addr = some label ↔ table.symbolize addr = some (label, 0)
  ascending : ∀ lower upper label offset, lower ≤ upper →
    table.symbolize lower = some (label, offset) →
      ∃ label' offset' base base', table.symbolize upper = some (label', offset') ∧
        table.resolve label = some base ∧ table.resolve label' = some base' ∧ base ≤ base'

/-- The addresses that are named without an offset are those that the pairs come to in the end. -/
theorem symbolize_names_nearest (pairs : List (String × Address)) :
    let table := (ofPairs pairs).value
    table.NamesNearest ∧ ∀ addr, (∃ label, table.symbolize addr = some (label, 0)) ↔
      ∃ label, lastAddress? pairs label = some addr := by
  intro table
  constructor
  · exact {
      unnamed := fun _ => symbolize_eq_none_iff
      named := by
        intro addr label offset
        simp only [symbolize_eq_some_iff, labelAt_eq_some_iff]
      atLabel := fun _ _ => labelAt_iff_symbolize
      ascending := fun _ _ _ _ le named => exists_symbolize_of_le le named }
  · intro addr
    simp only [← labelAt_iff_symbolize, ← Option.ne_none_iff_exists', labelAt_ne_none_iff, table,
      resolve_ofPairs]

/-- An address that a label has left names nothing any more. -/
example :
    let table := (ofPairs [("start", 0x10), ("loop", 0x12), ("loop", 0x14), ("again", 0x14)]).value
    table.symbolize 0xF = none ∧ table.symbolize 0x13 = some ("start", 3) ∧
      table.symbolize 0x20 = some ("loop", 0xC) := by decide

end Stepper.SymbolTable
