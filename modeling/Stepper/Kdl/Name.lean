import Stepper.Kdl.Character
import Stepper.Kdl.NumberLiteral
import Stepper.Kdl.StringLiteral

/-!
Names of nodes, properties and types. A bare name is not a number and not a keyword; any text is a
name in quotes.
-/
namespace Stepper.Kdl

def isKeyword (name : List Char) : Bool :=
  name == "true".toList || name == "false".toList || name == "null".toList

/-- Reads characters that look like a bare name. A sign needs the start of a name behind it to be
more than a name by itself. -/
def readNameLike : Reader (List Char)
  | [] => none
  | first :: rest =>
    if isSign first then
      match rest with
      | second :: tail =>
        if isNameStart second then
          some (first :: second :: tail.takeWhile isNamePart, tail.dropWhile isNamePart)
        else some ([first], rest)
      | [] => some ([first], [])
    else if isNameStart first then
      some (first :: rest.takeWhile isNamePart, rest.dropWhile isNamePart)
    else none

def readBareName (cs : List Char) : Option (String × List Char) :=
  (readNameLike cs).bind fun (name, rest) =>
    if isKeyword name then none else some (String.ofList name, rest)

def readName (cs : List Char) : Option (String × List Char) :=
  if (readNumber cs).isSome then none else readBareName cs <|> readString cs

/-- Reads a type name with the parentheses around it. -/
def readAnnotation : Reader String
  | '(' :: rest =>
    match readName rest with
    | some (name, ')' :: rest) => some (name, rest)
    | _ => none
  | _ => none

end Stepper.Kdl
