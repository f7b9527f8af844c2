import Stepper.Address

/-!
A set of breakpoint addresses. The addresses are kept in ascending order without repetition, so sets
with the same members are the same value.
-/
namespace Stepper

structure Breakpoints where
  addrs : List Address
  ascending : addrs.Pairwise (· < ·)
deriving DecidableEq

namespace Breakpoints

def empty : Breakpoints := ⟨[], .nil⟩

def toList (set : Breakpoints) : List Address := set.addrs

def size (set : Breakpoints) : Nat := set.addrs.length

def isEmpty (set : Breakpoints) : Bool := set.addrs.isEmpty

def contains (set : Breakpoints) (addr : Address) : Bool := set.addrs.contains addr

def insertInto (addr : Address) : List Address → List Address
  | [] => [addr]
  | first :: rest =>
    if addr < first then addr :: first :: rest
    else if addr = first then first :: rest
    else first :: insertInto addr rest

@[simp] theorem mem_insertInto {addr member : Address} {addrs : List Address} :
    member ∈ insertInto addr addrs ↔ member = addr ∨ member ∈ addrs := by
  induction addrs with
  | nil => simp [insertInto]
  | cons first rest ih => grind [insertInto]

theorem insertInto_ascending {addr : Address} {addrs : List Address}
    (h : addrs.Pairwise (· < ·)) : (insertInto addr addrs).Pairwise (· < ·) := by
  induction addrs with
  | nil => simp [insertInto]
  | cons first rest ih =>
    rw [List.pairwise_cons] at h
    unfold insertInto
    split
    · next below =>
      refine List.pairwise_cons.2 ⟨fun member held => ?_, List.pairwise_cons.2 h⟩
      rcases List.mem_cons.1 held with rfl | held
      · exact below
      · exact UInt32.lt_trans below (h.1 member held)
    · split
      · exact List.pairwise_cons.2 h
      · next notBelow ne =>
        refine List.pairwise_cons.2 ⟨fun member held => ?_, ih h.2⟩
        rcases mem_insertInto.1 held with rfl | held
        · exact UInt32.lt_of_le_of_ne (UInt32.not_lt.1 notBelow) (Ne.symm ne)
        · exact h.1 member held

/-- Adds an address and tells whether it is new. -/
def insert (set : Breakpoints) (addr : Address) : Bool × Breakpoints :=
  (!set.contains addr, ⟨insertInto addr set.addrs, insertInto_ascending set.ascending⟩)

/-- Removes an address and tells whether it was there. -/
def erase (set : Breakpoints) (addr : Address) : Bool × Breakpoints :=
  (set.contains addr, ⟨set.addrs.filter (· ≠ addr), set.ascending.filter _⟩)

def ofList (addrs : List Address) : Breakpoints :=
  addrs.foldl (fun set addr => (set.insert addr).2) empty

@[simp] theorem contains_empty (addr : Address) : empty.contains addr = false := rfl

@[simp] theorem contains_insert (set : Breakpoints) (addr other : Address) :
    (set.insert addr).2.contains other = (other == addr || set.contains other) := by
  rw [Bool.eq_iff_iff]
  simp [contains, insert]

@[simp] theorem contains_erase (set : Breakpoints) (addr other : Address) :
    (set.erase addr).2.contains other = (other != addr && set.contains other) := by
  rw [Bool.eq_iff_iff]
  simp [contains, erase, and_comm]

end Breakpoints
end Stepper
