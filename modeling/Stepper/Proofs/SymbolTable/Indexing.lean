import Stepper.SymbolTable.AddressIndex
import Mathlib.Data.List.Nodup
import Mathlib.Data.List.Perm.Basic

/-!
An address index is decided by the label of each address. Entering never changes a label that is
there, so an index of a list has the first label of the list at each address, and no other addresses
than those of the list. Its last entry up to an address is the one of the greatest such address.
-/
namespace Stepper.AddressIndex

variable {index left right : AddressIndex} {addr base : Address} {label : String}

theorem nodup_addresses (index : AddressIndex) : (index.entries.map Prod.fst).Nodup := by
  rw [List.Nodup, List.pairwise_map]
  exact index.ascending.imp UInt32.ne_of_lt

theorem get?_eq_some_iff : index.get? addr = some label ↔ (addr, label) ∈ index.entries := by
  rw [get?, List.lookup_eq_some_iff]
  constructor
  · rintro ⟨front, back, split, _⟩
    simp [split]
  · intro held
    obtain ⟨front, back, split⟩ := List.append_of_mem held
    refine ⟨front, back, split, fun entry earlier => bne_iff_ne.2 fun same => ?_⟩
    have below := index.ascending
    rw [split, List.pairwise_append] at below
    have lt := below.2.2 entry earlier (addr, label) List.mem_cons_self
    exact UInt32.ne_of_lt lt same.symm

theorem ext_of_get? (same : ∀ addr, left.get? addr = right.get? addr) : left = right := by
  have members : ∀ entry, entry ∈ left.entries ↔ entry ∈ right.entries := by
    rintro ⟨addr, label⟩
    rw [← get?_eq_some_iff, ← get?_eq_some_iff, same]
  have nodup (index : AddressIndex) : index.entries.Nodup :=
    List.Nodup.of_map Prod.fst index.nodup_addresses
  have perm := (List.perm_ext_iff_of_nodup (nodup left) (nodup right)).2 members
  have entries : left.entries = right.entries := by
    refine perm.eq_of_pairwise (fun one other _ _ lt gt => ?_) left.ascending right.ascending
    exact absurd lt (UInt32.lt_asymm gt)
  cases left
  cases right
  cases entries
  rfl

/-! Entering. -/

theorem lookup_insertInto (addr other : Address) (label : String)
    {entries : List (Address × String)} (ascending : entries.Pairwise (·.1 < ·.1)) :
    (insertInto addr label entries).lookup other =
      (entries.lookup other).or (if other = addr then some label else none) := by
  induction entries with
  | nil =>
    by_cases same : other = addr <;> simp [insertInto, List.lookup_cons, same, beq_false_of_ne]
  | cons first rest ih =>
    rw [List.pairwise_cons] at ascending
    unfold insertInto
    split
    · next below =>
      -- All addresses of the list lie above the new one.
      have missing : (first :: rest).lookup addr = none := by
        rw [List.lookup_eq_none_iff, List.forall_mem_cons]
        refine ⟨bne_iff_ne.2 (UInt32.ne_of_lt below), fun entry held => bne_iff_ne.2 ?_⟩
        exact UInt32.ne_of_lt (UInt32.lt_trans below (ascending.1 entry held))
      by_cases same : other = addr
      · subst same
        rw [missing, if_pos rfl, List.lookup_cons_self]
        rfl
      · rw [List.lookup_cons, beq_false_of_ne same, if_neg same, Option.or_none]
    · split
      · next same =>
        by_cases here : other = addr
        · rw [here, same, List.lookup_cons, beq_self_eq_true]
          rfl
        · rw [if_neg here, Option.or_none]
      · rw [List.lookup_cons, List.lookup_cons]
        split
        · rfl
        · exact ih ascending.2

theorem get?_enter (index : AddressIndex) (addr other : Address) (label : String) :
    (index.enter addr label).get? other =
      (index.get? other).or (if other = addr then some label else none) :=
  lookup_insertInto addr other label index.ascending

theorem get?_foldl_enter (entries : List (String × Address)) (index : AddressIndex)
    (addr : Address) :
    (entries.foldl (fun index entry => index.enter entry.2 entry.1) index).get? addr =
      (index.get? addr).or ((entries.find? fun entry => entry.2 == addr).map Prod.fst) := by
  induction entries generalizing index with
  | nil => rw [List.foldl_nil, List.find?_nil, Option.map_none, Option.or_none]
  | cons entry entries ih =>
    rw [List.foldl_cons, ih, get?_enter, Option.or_assoc, List.find?_cons]
    by_cases here : addr = entry.2
    · simp [here]
    · simp [here, beq_false_of_ne (Ne.symm here)]

/-- The first entry at an address decides its label, whatever is entered afterwards. -/
theorem get?_ofEntries (entries : List (String × Address)) (addr : Address) :
    (ofEntries entries).get? addr =
      (entries.find? fun entry => entry.2 == addr).map Prod.fst := by
  rw [ofEntries, get?_foldl_enter]
  rfl

/-! The last entry up to an address. -/

theorem floor?_eq_none_iff : index.floor? addr = none ↔
    ∀ base label, index.get? base = some label → addr < base := by
  rw [floor?, List.getLast?_eq_none_iff, List.filter_eq_nil_iff]
  simp only [decide_eq_true_eq, UInt32.not_le, Prod.forall, get?_eq_some_iff]

/-- Behind the last entry up to `addr` there are only greater addresses. -/
theorem nearest_of_floor? (found : index.floor? addr = some (base, label)) :
    index.get? base = some label ∧ base ≤ addr ∧
      ∀ other named, index.get? other = some named → other ≤ addr → other ≤ base := by
  obtain ⟨before, listed⟩ := List.getLast?_eq_some_iff.1 found
  have held : (base, label) ∈ index.entries.filter fun entry => entry.1 ≤ addr := by
    rw [listed]
    exact List.mem_concat_self
  have kept := List.mem_filter.1 held
  refine ⟨get?_eq_some_iff.2 kept.1, decide_eq_true_eq.mp kept.2, fun other named at_ le => ?_⟩
  have candidate : (other, named) ∈ index.entries.filter fun entry => entry.1 ≤ addr :=
    List.mem_filter.2 ⟨get?_eq_some_iff.1 at_, decide_eq_true le⟩
  have ascending := index.ascending.filter fun entry => entry.1 ≤ addr
  rw [listed] at candidate ascending
  rw [List.pairwise_append] at ascending
  rcases List.mem_append.1 candidate with earlier | last
  · exact UInt32.le_of_lt (ascending.2.2 _ earlier _ (List.mem_singleton_self _))
  · cases List.mem_singleton.1 last
    exact UInt32.le_refl base

end Stepper.AddressIndex
