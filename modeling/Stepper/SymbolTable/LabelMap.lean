import Stepper.Address

/-!
The addresses of labels, listed in the order in which the labels were declared first. A label occurs
once: declaring it again moves it to the new address and keeps its place in the list.
-/
namespace Stepper

structure LabelMap where
  entries : List (String × Address)
  labels_nodup : (entries.map Prod.fst).Nodup

namespace LabelMap

def empty : LabelMap := ⟨[], List.nodup_nil⟩

def size (map : LabelMap) : Nat := map.entries.length

def isEmpty (map : LabelMap) : Bool := map.entries.isEmpty

/-- The address of a label. -/
def resolve (map : LabelMap) (label : String) : Option Address := map.entries.lookup label

def contains (map : LabelMap) (label : String) : Bool := (map.resolve label).isSome

theorem resolve_eq_none_iff {map : LabelMap} {label : String} :
    map.resolve label = none ↔ label ∉ map.entries.map Prod.fst := by
  rw [resolve, List.lookup_eq_none_iff, List.mem_map]
  constructor
  · rintro others ⟨entry, held, rfl⟩
    simpa using others entry held
  · intro missing entry held
    exact bne_iff_ne.2 fun same => missing ⟨entry, held, same.symm⟩

/-- Moves a label that the map holds. -/
def move (map : LabelMap) (label : String) (addr : Address) : LabelMap where
  entries := map.entries.map fun entry => if entry.1 = label then (entry.1, addr) else entry
  labels_nodup := by
    have same : (map.entries.map fun entry =>
        if entry.1 = label then (entry.1, addr) else entry).map Prod.fst =
        map.entries.map Prod.fst := by
      rw [List.map_map]
      apply List.map_congr_left
      intro entry _
      dsimp only [Function.comp_apply]
      split <;> rfl
    rw [same]
    exact map.labels_nodup

/-- Adds a label that the map does not hold. -/
def add (map : LabelMap) (label : String) (addr : Address)
    (fresh : map.resolve label = none) : LabelMap where
  entries := map.entries ++ [(label, addr)]
  labels_nodup := by
    rw [List.map_append, List.nodup_append]
    refine ⟨map.labels_nodup, by simp, ?_⟩
    intro held member added last same
    simp only [List.map_cons, List.map_nil, List.mem_singleton] at last
    subst same last
    exact resolve_eq_none_iff.1 fresh member

/-- The map with a label at an address, and where the label was before. -/
def declare (map : LabelMap) (label : String) (addr : Address) : Option Address × LabelMap :=
  match h : map.resolve label with
  | none => (none, map.add label addr h)
  | some previous => (some previous, map.move label addr)

/-- Maps are equal if they give the same labels the same addresses, wherever they list them. -/
instance : BEq LabelMap where
  beq left right :=
    left.size == right.size && left.entries.all fun entry =>
      right.resolve entry.1 == some entry.2

end LabelMap
end Stepper
