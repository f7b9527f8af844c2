import Stepper.Address

/-!
The labels of addresses, in ascending order of the addresses. An address has one label; the first
one that is entered for it stays. Indexes with the same labels at the same addresses are the same
value.
-/
namespace Stepper

structure AddressIndex where
  entries : List (Address × String)
  ascending : entries.Pairwise (·.1 < ·.1)
deriving DecidableEq

namespace AddressIndex

def empty : AddressIndex := ⟨[], .nil⟩

/-- The label of an address. -/
def get? (index : AddressIndex) (addr : Address) : Option String := index.entries.lookup addr

/-- The last one of the entries up to an address, and with it. -/
def floor? (index : AddressIndex) (addr : Address) : Option (Address × String) :=
  (index.entries.filter fun entry => entry.1 ≤ addr).getLast?

def insertInto (addr : Address) (label : String) :
    List (Address × String) → List (Address × String)
  | [] => [(addr, label)]
  | first :: rest =>
    if addr < first.1 then (addr, label) :: first :: rest
    else if addr = first.1 then first :: rest
    else first :: insertInto addr label rest

theorem mem_insertInto {addr : Address} {label : String} {entries : List (Address × String)}
    {entry : Address × String} (held : entry ∈ insertInto addr label entries) :
    entry = (addr, label) ∨ entry ∈ entries := by
  induction entries with
  | nil => simpa [insertInto] using held
  | cons first rest ih => grind [insertInto]

theorem insertInto_ascending {addr : Address} {label : String} {entries : List (Address × String)}
    (h : entries.Pairwise (·.1 < ·.1)) : (insertInto addr label entries).Pairwise (·.1 < ·.1) := by
  induction entries with
  | nil => simp [insertInto]
  | cons first rest ih =>
    rw [List.pairwise_cons] at h
    unfold insertInto
    split
    · next below =>
      refine List.pairwise_cons.2 ⟨fun entry held => ?_, List.pairwise_cons.2 h⟩
      rcases List.mem_cons.1 held with rfl | held
      · exact below
      · exact UInt32.lt_trans below (h.1 entry held)
    · split
      · exact List.pairwise_cons.2 h
      · next notBelow ne =>
        refine List.pairwise_cons.2 ⟨fun entry held => ?_, ih h.2⟩
        rcases mem_insertInto held with rfl | held
        · exact UInt32.lt_of_le_of_ne (UInt32.not_lt.1 notBelow) (Ne.symm ne)
        · exact h.1 entry held

/-- Enters a label for an address that has none. -/
def enter (index : AddressIndex) (addr : Address) (label : String) : AddressIndex where
  entries := insertInto addr label index.entries
  ascending := insertInto_ascending index.ascending

/-- The index of a list of labels with their addresses, entered from first to last. -/
def ofEntries (entries : List (String × Address)) : AddressIndex :=
  entries.foldl (fun index entry => index.enter entry.2 entry.1) empty

end AddressIndex
end Stepper
