import Stepper.Text.Numeral

/-!
A KDL document: nodes, each with a name, arguments, properties and child nodes of its own. What a
document discards is no part of it.
-/
namespace Stepper.Kdl

inductive Base where
  | binary
  | octal
  | decimal
  | hexadecimal
deriving DecidableEq

def Base.toNat : Base → Nat
  | .binary => 2
  | .octal => 8
  | .decimal => 10
  | .hexadecimal => 16

inductive Sign where
  | none
  | plus
  | minus
deriving DecidableEq

def Sign.text : Sign → List Char
  | .none => []
  | .plus => ['+']
  | .minus => ['-']

/-- An integer as it is written, underscores left out, with the number that its digits are worth. -/
structure Integer where
  sign : Sign
  base : Base
  digits : List Char
  magnitude : Nat
  worth : Numeral.digits? base.toNat digits = some magnitude
deriving DecidableEq

namespace Integer

/-- The integer with these digits, if that is what they are. -/
def ofDigits? (sign : Sign) (base : Base) (digits : List Char) : Option Integer :=
  match worth : Numeral.digits? base.toNat digits with
  | some magnitude => some ⟨sign, base, digits, magnitude, worth⟩
  | none => none

def text (integer : Integer) : List Char := integer.sign.text ++ integer.digits

end Integer

inductive Literal where
  | string (text : String)
  | integer (value : Integer)
  /-- A number with a fraction or an exponent. -/
  | decimal
  | boolean (value : Bool)
  | null
deriving DecidableEq

def Literal.kind : Literal → String
  | .string _ => "string"
  | .integer _ => "integer"
  | .decimal => "decimal"
  | .boolean _ => "boolean"
  | .null => "null"

structure Value where
  /-- The type name in front of the literal. -/
  annotation : Option String
  literal : Literal
deriving DecidableEq

structure Node where
  annotation : Option String
  name : String
  arguments : List Value
  /-- In the order in which they are written; a name may occur more than once. -/
  properties : List (String × Value)
  children : List Node

abbrev Document := List Node

end Stepper.Kdl
