import Stepper.File
import Stepper.SymbolTable.Basic
import Stepper.SymbolTable.Record

/-!
A symbol file lists one record per line. It is read as a whole: all records are read before the
first label is declared, and the first faulty line decides. Whatever reading comes to, it may have
reported something on the way.
-/
namespace Stepper.SymbolTable

inductive Error where
  | file (name : String) (cause : File.Error)
  | line (number : Nat) (fault : Fault)
deriving DecidableEq

def Error.message : Error → String
  | .file name cause => s!"{name}: {cause.message}"
  | .line number fault => s!"line {number}: {fault.message}"

abbrev Reading := ExceptT Error Traced

def recordOfNumbered (line : List Char × Nat) : Reading (Option (String × Address)) :=
  match recordOfLine line.1 with
  | .ok record => pure record
  | .error fault => throw (.line line.2 fault)

/-- The records of a text in the order of its lines, which count from one. -/
def readRecords (text : List Char) : Reading (List (String × Address)) := do
  let held ← ((Text.lines text).zipIdx 1).mapM recordOfNumbered
  return held.filterMap id

def ofText (text : String) : Traced (Except Error SymbolTable) := ExceptT.run do
  let pairs ← readRecords text.toList
  ofPairs pairs

def ofFile (file : File) : Traced (Except Error SymbolTable) :=
  match file.text with
  | .error cause => pure (.error (.file file.name cause))
  | .ok text => ofText text

end Stepper.SymbolTable
