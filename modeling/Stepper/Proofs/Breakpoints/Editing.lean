import Mathlib.Data.List.DropRight
import Mathlib.Data.List.Induction
import Mathlib.Data.List.Perm.Basic
import Stepper.Breakpoints

/-!
A set of breakpoints is decided by its members. The last edit that is about an address tells whether
the address is one of them, and nothing else of the edits can be found in the set. What the edits
answered counts the members.
-/
namespace Stepper.Breakpoints

inductive Edit where
  | insert (addr : Address)
  | erase (addr : Address)
  | clear
deriving DecidableEq

def edit (set : Breakpoints) : Edit → Breakpoints
  | .insert addr => (set.insert addr).2
  | .erase addr => (set.erase addr).2
  | .clear => .empty

def editAll (set : Breakpoints) (edits : List Edit) : Breakpoints := edits.foldl edit set

/-- Whether an edit makes an address a member or keeps it from being one, if it is about it. -/
def Edit.verdict (addr : Address) : Edit → Option Bool
  | .insert other => if other = addr then some true else none
  | .erase other => if other = addr then some false else none
  | .clear => some false

/-- The verdict of the last edit about an address. -/
def Edit.lastVerdict? (addr : Address) (edits : List Edit) : Option Bool :=
  edits.reverse.findSome? (verdict addr)

theorem Edit.lastVerdict?_concat (addr : Address) (edits : List Edit) (last : Edit) :
    lastVerdict? addr (edits ++ [last]) = (last.verdict addr).or (lastVerdict? addr edits) := by
  rw [lastVerdict?, List.reverse_append, List.reverse_singleton, List.singleton_append,
    List.findSome?_cons]
  cases last.verdict addr <;> rfl

/-- An edit with the set that it is made on. -/
structure Revision where
  set : Breakpoints
  edit : Edit

namespace Revision

/-- An address was added that had not been there. -/
def adds (revision : Revision) : Bool :=
  match revision.edit with
  | .insert addr => (revision.set.insert addr).1
  | _ => false

/-- An address was removed that had been there. -/
def removes (revision : Revision) : Bool :=
  match revision.edit with
  | .erase addr => (revision.set.erase addr).1
  | _ => false

def clears (revision : Revision) : Bool := revision.edit = .clear

/-- The revisions behind the last one that cleared the set. -/
def sinceCleared (revisions : List Revision) : List Revision :=
  revisions.rtakeWhile fun revision => !revision.clears

theorem sinceCleared_concat (revisions : List Revision) (revision : Revision) :
    sinceCleared (revisions ++ [revision]) =
      if revision.clears then [] else sinceCleared revisions ++ [revision] := by
  rw [sinceCleared, List.rtakeWhile_concat]
  by_cases clears : revision.clears <;> simp [clears, sinceCleared]

end Revision

def revisions (set : Breakpoints) : List Edit → List Revision
  | [] => []
  | first :: rest => ⟨set, first⟩ :: (set.edit first).revisions rest

theorem editAll_concat (set : Breakpoints) (edits : List Edit) (last : Edit) :
    set.editAll (edits ++ [last]) = (set.editAll edits).edit last := by
  rw [editAll, editAll, List.foldl_append]
  rfl

theorem revisions_concat (set : Breakpoints) (edits : List Edit) (last : Edit) :
    set.revisions (edits ++ [last]) = set.revisions edits ++ [⟨set.editAll edits, last⟩] := by
  induction edits generalizing set with
  | nil => rfl
  | cons first rest ih =>
    rw [List.cons_append, revisions, ih]
    rfl

/-! Members. -/

variable {one other : Breakpoints}

theorem mem_toList_iff {set : Breakpoints} {addr : Address} :
    addr ∈ set.toList ↔ set.contains addr = true :=
  List.contains_iff_mem.symm

theorem nodup_toList (set : Breakpoints) : set.toList.Nodup :=
  set.ascending.imp UInt32.ne_of_lt

theorem perm_of_mem_iff {addrs : List Address} (nodup : addrs.Nodup)
    (same : ∀ addr, addr ∈ one.toList ↔ addr ∈ addrs) : one.toList.Perm addrs :=
  (List.perm_ext_iff_of_nodup one.nodup_toList nodup).2 same

/-- Members can be put in ascending order in one way only. -/
theorem eq_of_contains_eq (same : ∀ addr, one.contains addr = other.contains addr) :
    one = other := by
  have perm : one.toList.Perm other.toList := by
    apply perm_of_mem_iff other.nodup_toList
    intro addr
    rw [mem_toList_iff, mem_toList_iff, same]
  have listed : one.toList = other.toList :=
    perm.eq_of_pairwise (fun _ _ _ _ below above => absurd above (UInt32.lt_asymm below))
      one.ascending other.ascending
  cases one
  cases other
  cases listed
  rfl

theorem beq_iff_contains_eq :
    (one == other) = true ↔ ∀ addr, one.contains addr = other.contains addr := by
  rw [beq_iff_eq]
  constructor
  · rintro rfl addr
    rfl
  · exact eq_of_contains_eq

theorem isEmpty_iff_size {set : Breakpoints} : set.isEmpty = true ↔ set.size = 0 := by
  rw [isEmpty, size, List.isEmpty_iff, List.length_eq_zero_iff]

/-- An edit that is about an address decides on it, and any other one leaves it as it was. -/
theorem contains_edit (set : Breakpoints) (edit : Edit) (addr : Address) :
    (set.edit edit).contains addr = (edit.verdict addr).getD (set.contains addr) := by
  cases edit with
  | insert found =>
    rw [Breakpoints.edit, contains_insert, Edit.verdict]
    by_cases same : found = addr
    · simp [same]
    · simp [same, Ne.symm same]
  | erase found =>
    rw [Breakpoints.edit, contains_erase, Edit.verdict]
    by_cases same : found = addr
    · simp [same]
    · simp [same, Ne.symm same]
  | clear => rfl

theorem contains_editAll (edits : List Edit) (addr : Address) :
    (empty.editAll edits).contains addr = (Edit.lastVerdict? addr edits).getD false := by
  induction edits using List.reverseRecOn with
  | nil => rfl
  | append_singleton edits last ih =>
    rw [editAll_concat, contains_edit, ih, Edit.lastVerdict?_concat]
    cases last.verdict addr <;> rfl

/-! The number of members. -/

section Size

variable {set : Breakpoints} {addr : Address}

theorem insert_of_held (held : set.contains addr = true) : (set.insert addr).2 = set := by
  apply eq_of_contains_eq
  intro other
  rw [contains_insert]
  by_cases same : other = addr <;> simp [same, held]

theorem erase_of_absent (absent : set.contains addr = false) : (set.erase addr).2 = set := by
  apply eq_of_contains_eq
  intro other
  rw [contains_erase]
  by_cases same : other = addr <;> simp [same, absent]

theorem toList_insert_perm (absent : set.contains addr = false) :
    (set.insert addr).2.toList.Perm (addr :: set.toList) := by
  have nodup : (addr :: set.toList).Nodup := by
    refine List.nodup_cons.2 ⟨?_, set.nodup_toList⟩
    rw [mem_toList_iff, absent]
    exact Bool.false_ne_true
  apply perm_of_mem_iff nodup
  intro other
  rw [mem_toList_iff, contains_insert, List.mem_cons, mem_toList_iff, Bool.or_eq_true, beq_iff_eq]

theorem toList_perm_erase (held : set.contains addr = true) :
    set.toList.Perm (addr :: (set.erase addr).2.toList) := by
  have nodup : (addr :: (set.erase addr).2.toList).Nodup := by
    refine List.nodup_cons.2 ⟨?_, (set.erase addr).2.nodup_toList⟩
    rw [mem_toList_iff, contains_erase, bne_self_eq_false]
    exact Bool.false_ne_true
  apply perm_of_mem_iff nodup
  intro other
  rw [mem_toList_iff, List.mem_cons, mem_toList_iff, contains_erase]
  by_cases same : other = addr <;> simp [same, held]

theorem size_insert (set : Breakpoints) (addr : Address) :
    (set.insert addr).2.size = set.size + if (set.insert addr).1 then 1 else 0 := by
  have answer : (set.insert addr).1 = !set.contains addr := rfl
  cases held : set.contains addr with
  | true =>
    rw [insert_of_held held, answer, held]
    rfl
  | false =>
    rw [answer, held]
    exact (toList_insert_perm held).length_eq

theorem size_erase (set : Breakpoints) (addr : Address) :
    (set.erase addr).2.size + (if (set.erase addr).1 then 1 else 0) = set.size := by
  have answer : (set.erase addr).1 = set.contains addr := rfl
  cases held : set.contains addr with
  | true =>
    rw [answer, held]
    exact (toList_perm_erase held).length_eq.symm
  | false =>
    rw [erase_of_absent held, answer, held]
    rfl

end Size

theorem size_edit (revision : Revision) (kept : revision.clears = false) :
    (revision.set.edit revision.edit).size + (if revision.removes then 1 else 0) =
      revision.set.size + if revision.adds then 1 else 0 := by
  obtain ⟨set, edit⟩ := revision
  cases edit with
  | insert addr => exact size_insert set addr
  | erase addr => exact size_erase set addr
  | clear => cases kept

/-- Additions that were news against removals that met a member, each since the set was cleared. -/
theorem size_editAll (edits : List Edit) :
    (empty.editAll edits).size +
        (Revision.sinceCleared (empty.revisions edits)).countP Revision.removes =
      (Revision.sinceCleared (empty.revisions edits)).countP Revision.adds := by
  induction edits using List.reverseRecOn with
  | nil => rfl
  | append_singleton edits last ih =>
    rw [editAll_concat, revisions_concat, Revision.sinceCleared_concat]
    cases clears : Revision.clears ⟨empty.editAll edits, last⟩ with
    | true =>
      have clear : last = .clear := of_decide_eq_true clears
      rw [clear]
      rfl
    | false =>
      have sized := size_edit _ clears
      simp only [Bool.false_eq_true, if_false, List.countP_append, List.countP_singleton] at sized ⊢
      omega

theorem edits_decide_set (edits : List Edit) :
    let set := empty.editAll edits
    let recent := Revision.sinceCleared (empty.revisions edits)
    set.toList.Pairwise (· < ·) ∧
    (∀ addr, addr ∈ set.toList ↔ set.contains addr = true) ∧
    (∀ addr, set.contains addr = true ↔ Edit.lastVerdict? addr edits = some true) ∧
    set.size = set.toList.length ∧
    set.size + recent.countP Revision.removes = recent.countP Revision.adds ∧
    (set.isEmpty = true ↔ set.size = 0) ∧
    ∀ others : List Edit, (set == empty.editAll others) = true ↔
      ∀ addr, set.contains addr = (empty.editAll others).contains addr := by
  intro set recent
  refine ⟨set.ascending, fun addr => mem_toList_iff, fun addr => ?_, rfl, size_editAll edits,
    isEmpty_iff_size, fun others => beq_iff_contains_eq⟩
  rw [contains_editAll]
  cases Edit.lastVerdict? addr edits <;> simp

/-- The order of the edits and the repeated ones cannot be found in the set. -/
example : (empty.editAll [.insert 5, .clear, .insert 9, .insert 3, .insert 9]).toList = [3, 9] ∧
    empty.editAll [.insert 3, .erase 3, .insert 9, .insert 3] =
      empty.editAll [.insert 5, .clear, .insert 9, .insert 3, .insert 9] := by
  decide

end Stepper.Breakpoints
