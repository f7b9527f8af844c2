import Stepper.Kdl.Document
import Stepper.Text.Escaped

/-!
What is needed of a library that reads settings from KDL: it reads the document that a text is, and
it decodes a setting from a document. The name of the field tells the node that states the setting.
A document that it turns down it answers with all that it has found wrong.
-/
namespace Stepper.Kdl

/-- A whole number that a document may state, with the value that it has where nothing is said. -/
structure Setting where
  field : String
  standard : UInt64

/-- The name of the node that states the setting. -/
def Setting.node (setting : Setting) : String :=
  String.ofList (setting.field.toList.map fun c => if c = '_' then '-' else c)

structure Library where
  /-- The document that a text is, if it is one. -/
  read? : String → Option Document
  decode : Setting → Document → Except (List String) UInt64

/-- What may be wrong with a document. -/
inductive Detail where
  | unexpectedNode (name : String)
  | duplicateNode (name : String)
  | missingArgument (field : String)
  | wrongType (found : String)
  | notInteger (kind : String)
  | badNumber (mistake : Numeral.Mistake)
  | unexpectedArgument
  | unexpectedProperty (name : String)
deriving DecidableEq

def Detail.message : Detail → String
  | .unexpectedNode name => s!"unexpected node `{Text.escape name}`"
  | .duplicateNode name => s!"duplicate node `{Text.escape name}`, single node expected"
  | .missingArgument field => s!"additional argument `{field}` is required"
  | .wrongType found => s!"u64 or no type for u64, found {found}"
  | .notInteger kind => s!"expected string scalar, found {kind}"
  | .badNumber mistake => mistake.message
  | .unexpectedArgument => "unexpected argument"
  | .unexpectedProperty name => s!"unexpected property `{Text.escape name}`"

end Stepper.Kdl
