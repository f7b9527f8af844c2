import Stepper.Kdl.Library
import Stepper.Kdl.Node

/-!
A library of KDL that goes through a document from front to back. It collects what is wrong, up to
the first mistake after which nothing more is looked at.
-/
namespace Stepper.Kdl

/-- The number that a literal states. -/
def Literal.toUInt64 : Literal → Except Detail UInt64
  | .integer value => (Numeral.uint64 value.base.toNat value.text).mapError .badNumber
  | literal => .error (.notInteger literal.kind)

/-- The only type name that a number may carry. -/
def numberType : String := "u64"

def annotationFaults : Option String → List Detail
  | none => []
  | some found => if found = numberType then [] else [.wrongType found]

def valueFaults (value : Value) : List Detail :=
  annotationFaults value.annotation ++
    match value.literal.toUInt64 with
    | .ok _ => []
    | .error fault => [fault]

/-- The first property in the order of names. -/
def firstProperty? (node : Node) : Option String := (node.properties.map Prod.fst).minOn? id

/-- What is wrong with a node that states a setting. -/
structure Findings where
  details : List Detail
  /-- Whether the rest of the document is not looked at. -/
  final : Bool

namespace Setting

def nodeFindings (setting : Setting) (node : Node) : Findings :=
  match node.arguments, firstProperty? node with
  | [], _ => ⟨[.missingArgument setting.field], true⟩
  | value :: _ :: _, _ => ⟨valueFaults value ++ [.unexpectedArgument], true⟩
  | [value], some name => ⟨valueFaults value ++ [.unexpectedProperty name], true⟩
  | [value], none =>
    ⟨valueFaults value ++ node.children.map fun child => .unexpectedNode child.name, false⟩

/-- What is wrong with the nodes of a document, given whether the setting was stated before. -/
def faults (setting : Setting) (stated : Bool) : Document → List Detail
  | [] => []
  | node :: rest =>
    if node.name = setting.node then
      if stated then [.duplicateNode node.name]
      else
        let found := setting.nodeFindings node
        if found.final then found.details else found.details ++ setting.faults true rest
    else .unexpectedNode node.name :: setting.faults stated rest

/-- The number that the first value of the first node of the setting states. -/
def stated? (setting : Setting) (document : Document) : Option UInt64 := do
  let node ← document.find? fun node => node.name = setting.node
  let value ← node.arguments.head?
  value.literal.toUInt64.toOption

def decode (setting : Setting) (document : Document) : Except (List String) UInt64 :=
  match setting.faults false document with
  | [] => .ok ((setting.stated? document).getD setting.standard)
  | details => .error (details.map Detail.message)

end Setting

def library : Library where
  read? := Document.ofText?
  decode := Setting.decode

end Stepper.Kdl
