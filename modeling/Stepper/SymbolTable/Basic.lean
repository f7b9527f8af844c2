import Stepper.SymbolTable.AddressIndex
import Stepper.SymbolTable.LabelMap
import Stepper.Trace

/-!
A symbol table lists the labels of a program with their addresses, and keeps an index of the
addresses. Several labels may share an address, which then goes by the first of them. The index is
made once, when all labels are declared, and it is always the one of the labels.
-/
namespace Stepper

structure SymbolTable extends LabelMap where
  index : AddressIndex
  index_eq : index = .ofEntries entries

namespace SymbolTable

/-- The table of these labels. -/
def indexed (labels : LabelMap) : SymbolTable := ⟨labels, .ofEntries labels.entries, rfl⟩

def empty : SymbolTable := indexed .empty

/-- The first label at an address. -/
def labelAt (table : SymbolTable) (addr : Address) : Option String := table.index.get? addr

/-- The closest label at or below an address, with the distance from it. -/
def symbolize (table : SymbolTable) (addr : Address) : Option (String × Word) :=
  (table.index.floor? addr).map fun entry => (entry.2, addr - entry.1)

/-- Declares a label and reports it if it was declared before. -/
def declareTraced (labels : LabelMap) (pair : String × Address) : Traced LabelMap :=
  match labels.declare pair.1 pair.2 with
  | (none, labels) => pure labels
  | (some previous, labels) => ⟨labels, [.event (.duplicateLabel pair.1 previous pair.2)]⟩

/-- The table of a sequence of declarations. -/
def ofPairs (pairs : List (String × Address)) : Traced SymbolTable :=
  indexed <$> pairs.foldlM declareTraced .empty

instance : BEq SymbolTable where
  beq left right := left.toLabelMap == right.toLabelMap && left.index == right.index

end SymbolTable
end Stepper
