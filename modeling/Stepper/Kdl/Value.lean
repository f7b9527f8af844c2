import Stepper.Kdl.Document
import Stepper.Kdl.Name

/-!
Values, and the entries of a node that are made of them: an argument is a value, a property is a
name with a value. A bare name is never a value.
-/
namespace Stepper.Kdl

/-- Reads a keyword, whatever follows it. -/
def readKeyword (cs : List Char) : Option (Literal × List Char) :=
  (skipText "null".toList cs).map (.null, ·) <|>
  (skipText "true".toList cs).map (.boolean true, ·) <|>
  (skipText "false".toList cs).map (.boolean false, ·)

def readLiteral (cs : List Char) : Option (Literal × List Char) :=
  (readString cs).map (fun (text, rest) => (.string text, rest)) <|>
  readKeyword cs <|> readNumber cs

def readValue (cs : List Char) : Option (Value × List Char) :=
  let annotated := maybe readAnnotation cs
  (readLiteral annotated.2).map fun (literal, rest) => (⟨annotated.1, literal⟩, rest)

inductive Entry where
  | argument (value : Value)
  | property (name : String) (value : Value)

def readProperty (name : String) (cs : List Char) : Option (Entry × List Char) :=
  (readValue cs).map fun (value, rest) => (.property name value, rest)

def readEntry (cs : List Char) : Option (Entry × List Char) :=
  match readLiteral cs with
  | some (.string name, '=' :: rest) => readProperty name rest
  | some (literal, rest) => some (.argument ⟨none, literal⟩, rest)
  | none =>
    match readBareName cs with
    | some (name, '=' :: rest) => readProperty name rest
    | some _ => none
    | none => (readValue cs).map fun (value, rest) => (.argument value, rest)

namespace Entry

def argument? : Entry → Option Value
  | .argument value => some value
  | .property .. => none

def property? : Entry → Option (String × Value)
  | .argument _ => none
  | .property name value => some (name, value)

end Entry
end Stepper.Kdl
