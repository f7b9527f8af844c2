import Stepper.File
import Stepper.Kdl.Library

/-!
Settings of a debugger, as a KDL document states them. Reading the document and decoding it is up to
a library; the setting that it looks for is declared here.
-/
namespace Stepper

structure Config where
  /-- The greatest number of instructions that one run executes. -/
  runStepLimit : UInt64
deriving DecidableEq

namespace Config

def standard : Config := ⟨1000000⟩

def stepLimit : Kdl.Setting where
  field := "run_step_limit"
  standard := standard.runStepLimit

inductive Error where
  | file (name : String) (cause : File.Error)
  | notKdl
  | invalid (details : List String)
deriving DecidableEq

def Error.message : Error → String
  | .file name cause => s!"{name}: {cause.message}"
  | .notKdl => "error parsing KDL"
  | .invalid _ => "error parsing KDL"

variable (library : Kdl.Library)

def ofDocument (document : Kdl.Document) : Except (List String) Config :=
  (library.decode stepLimit document).map Config.mk

def ofText (text : String) : Except Error Config :=
  match library.read? text with
  | some document => (ofDocument library document).mapError .invalid
  | none => .error .notKdl

def ofFile (file : File) : Except Error Config :=
  (file.text.mapError (.file file.name)).bind (ofText library)

end Config
end Stepper
