import Stepper.Debugger.Basic

/-!
Loading replaces program, symbols and breakpoints together or changes none of them. The machine is
asked first which addresses the image would occupy, and all symbols have to be among these.
-/
namespace Stepper.Debugger

variable {σ ε : Type} [Engine σ ε]

/-- The status of a machine that has just been loaded. -/
def loadedStatus (engine : σ) : Status := if Engine.isHalted engine then .halted else .ready

/-- The debugger behind a load that succeeded. -/
def withProgram (d : Debugger σ) (engine : σ) (symbols : SymbolTable) : Debugger σ :=
  { d with
    engine := engine
    symbols := symbols
    breakpoints := .empty
    status := loadedStatus engine }

/-- The first symbol outside of an extent. -/
def strayed? (symbols : SymbolTable) (extent : Extent) : Option (String × Address) :=
  symbols.entries.find? fun entry => !extent.contains entry.2

def loadImage (d : Debugger σ) (image : Image) (symbols : SymbolTable) : Outcome σ ε Unit :=
  let reporting (inner : List Trace) : List Trace := [.span (.load image.length) inner]
  match Engine.extent d.engine image with
  | .error fault => ⟨.error (.load (.image fault)), d, reporting []⟩
  | .ok extent =>
    match strayed? symbols extent with
    | some (label, addr) => ⟨.error (.load (.symbolOutOfRange label addr)), d, reporting []⟩
    | none =>
      match Engine.load d.engine image with
      | (.error fault, engine) =>
        ⟨.error (.load (.image fault)), { d with engine := engine }, reporting []⟩
      | (.ok occupied, engine) =>
        ⟨.ok (), d.withProgram engine symbols,
          reporting [.event (.loaded occupied symbols.size d.breakpoints.size)]⟩

/-- Loads from files. The program is read first, and both are read before anything is loaded. -/
def load (d : Debugger σ) (program symbolFile : File) : Outcome σ ε Unit :=
  match program.bytes with
  | .error cause => d.answer (.error (.load (.file program.name cause)))
  | .ok image =>
    let read := SymbolTable.ofFile symbolFile
    match read.value with
    | .error cause => ⟨.error (.load (.symbols cause)), d, read.trace⟩
    | .ok symbols =>
      let outcome := d.loadImage image symbols
      { outcome with trace := read.trace ++ outcome.trace }

theorem strayed?_eq_none_iff {symbols : SymbolTable} {extent : Extent} :
    strayed? symbols extent = none ↔ ∀ entry ∈ symbols.entries, extent.contains entry.2 := by
  simp [strayed?]

end Stepper.Debugger
