import Stepper.Kdl.Character
import Stepper.Kdl.Library
import Stepper.Proofs.Text.Spelling

/-!
What is relied on of a library that reads settings from KDL. The first part is the grammar of a line
that states a number: a bare name, spaces, an integer and the end of the line. The second part tells
what decoding a document comes to, from the conversion of one value up to the nodes of a document.
-/
namespace Stepper.Kdl

/-! Lines. -/

/-- A name without quotes. What a sign begins is left aside, since it may be a number. -/
structure BareName (name : List Char) : Prop where
  start : ∃ first rest, name = first :: rest ∧ isNameStart first = true ∧ isSign first = false ∧
    isSpace first = false ∧ ∀ c ∈ rest, isNamePart c = true
  noKeyword : name ∉ ["true".toList, "false".toList, "null".toList]

/-- Spaces that a name cannot go on with. -/
def Blanks (blanks : List Char) : Prop := blanks ≠ [] ∧ ∀ c ∈ blanks, isBreakingSpace c = true

/-- A digit and then digits and underscores, with the digits alone. -/
inductive Gapped (base : Nat) : List Char → List Char → Prop where
  | first {c : Char} {value : Nat} (digit : Numeral.IsDigit base c value) : Gapped base [c] [c]
  | digit {c : Char} {cs digits : List Char} {value : Nat} (front : Gapped base cs digits)
    (digit : Numeral.IsDigit base c value) : Gapped base (cs ++ [c]) (digits ++ [c])
  | gap {cs digits : List Char} (front : Gapped base cs digits) : Gapped base (cs ++ ['_']) digits

inductive Mark : Char → Base → Prop where
  | binary : Mark 'b' .binary
  | octal : Mark 'o' .octal
  | hexadecimal : Mark 'x' .hexadecimal

inductive Magnitude : List Char → Base → List Char → Prop where
  | decimal {cs digits : List Char} (gapped : Gapped 10 cs digits) : Magnitude cs .decimal digits
  | marked {mark : Char} {base : Base} {cs digits : List Char} (marks : Mark mark base)
    (gapped : Gapped base.toNat cs digits) : Magnitude ('0' :: mark :: cs) base digits

inductive Spells : List Char → Integer → Prop where
  | signed {cs : List Char} (integer : Integer)
    (magnitude : Magnitude cs integer.base integer.digits) :
    Spells (integer.sign.text ++ cs) integer

/-- What a node may end with, apart from a comment. -/
inductive Terminates : List Char → Prop where
  | text : Terminates []
  | semicolon : Terminates [';']
  | newline {c : Char} (newline : isNewline c = true) : Terminates [c]
  | twoCharacters : Terminates ['\r', '\n']

/-- A node with an argument and nothing else. -/
def Node.single (name : String) (value : Value) : Node where
  annotation := none
  name := name
  arguments := [value]
  properties := []
  children := []

/-- A line with a name and an integer is a document of one node. The integer is taken as it is
written. -/
def Library.ReadsLines (library : Library) : Prop :=
  ∀ {name blanks literal ending : List Char} {integer : Integer}, BareName name → Blanks blanks →
    Spells literal integer → Terminates ending →
      library.read? (String.ofList (name ++ blanks ++ literal ++ ending)) =
        some [.single (String.ofList name) ⟨none, .integer integer⟩]

/-! Decoding. -/

/-- An integer is converted from its text, and no other literal is. -/
inductive Converts : Literal → Except Detail UInt64 → Prop where
  | integer (integer : Integer) :
    Converts (.integer integer)
      ((Numeral.uint64 integer.base.toNat integer.text).mapError .badNumber)
  | other {literal : Literal} (other : ∀ integer, literal ≠ .integer integer) :
    Converts literal (.error (.notInteger literal.kind))

inductive AnnotationFinds : Option String → List Detail → Prop where
  | absent : AnnotationFinds none []
  | right : AnnotationFinds (some "u64") []
  | wrong {found : String} (other : found ≠ "u64") : AnnotationFinds (some found) [.wrongType found]

/-- A value is converted also if its type is wrong. -/
inductive ValueFinds (value : Value) : List Detail → Prop where
  | converted {details : List Detail} {n : UInt64}
    (typed : AnnotationFinds value.annotation details)
    (converts : Converts value.literal (.ok n)) : ValueFinds value details
  | refused {details : List Detail} {fault : Detail}
    (typed : AnnotationFinds value.annotation details)
    (converts : Converts value.literal (.error fault)) : ValueFinds value (details ++ [fault])

/-- What is found wrong with a node that states the setting, and whether decoding stops there. Of
several properties that are too many it is the first one in the order of names that is told. -/
inductive NodeFinds (setting : Setting) (node : Node) : List Detail → Bool → Prop where
  | missing (arguments : node.arguments = []) :
    NodeFinds setting node [.missingArgument setting.field] true
  | argument {value second : Value} {others : List Value} {details : List Detail}
    (arguments : node.arguments = value :: second :: others) (finds : ValueFinds value details) :
    NodeFinds setting node (details ++ [.unexpectedArgument]) true
  | property {value : Value} {name : String} {details : List Detail}
    (arguments : node.arguments = [value]) (held : name ∈ node.properties.map Prod.fst)
    (least : ∀ other ∈ node.properties.map Prod.fst, name ≤ other)
    (finds : ValueFinds value details) :
    NodeFinds setting node (details ++ [.unexpectedProperty name]) true
  | children {value : Value} {details : List Detail} (arguments : node.arguments = [value])
    (properties : node.properties = []) (finds : ValueFinds value details) :
    NodeFinds setting node
      (details ++ node.children.map fun child => .unexpectedNode child.name) false

/-- What is found wrong with a document, given whether the setting was stated before it. -/
inductive Finds (setting : Setting) : Bool → Document → List Detail → Prop where
  | nothing {stated : Bool} : Finds setting stated [] []
  | unexpected {stated : Bool} {node : Node} {rest : Document} {details : List Detail}
    (name : node.name ≠ setting.node) (finds : Finds setting stated rest details) :
    Finds setting stated (node :: rest) (.unexpectedNode node.name :: details)
  | duplicate {node : Node} {rest : Document} (name : node.name = setting.node) :
    Finds setting true (node :: rest) [.duplicateNode node.name]
  | stopped {node : Node} {rest : Document} {details : List Detail}
    (name : node.name = setting.node) (finds : NodeFinds setting node details true) :
    Finds setting false (node :: rest) details
  | stated {node : Node} {rest : Document} {details others : List Detail}
    (name : node.name = setting.node) (finds : NodeFinds setting node details false)
    (further : Finds setting true rest others) :
    Finds setting false (node :: rest) (details ++ others)

/-- The number that a document comes to if nothing is wrong with it. -/
inductive Yields (setting : Setting) (document : Document) : UInt64 → Prop where
  | standard (silent : ∀ node ∈ document, node.name ≠ setting.node) :
    Yields setting document setting.standard
  | stated {node : Node} {value : Value} {n : UInt64} (held : node ∈ document)
    (name : node.name = setting.node) (argument : node.arguments = [value])
    (converts : Converts value.literal (.ok n)) : Yields setting document n

/-- A setting is decoded to its number if nothing is found wrong, and otherwise to all that is. -/
structure Library.Decodes (library : Library) : Prop where
  accepts : ∀ {setting : Setting} {document : Document} {n : UInt64},
    Finds setting false document [] → Yields setting document n →
      library.decode setting document = .ok n
  refuses : ∀ {setting : Setting} {document : Document} {details : List Detail},
    Finds setting false document details → details ≠ [] →
      library.decode setting document = .error (details.map Detail.message)

/-! Something is found of every document, if only that nothing is wrong with it. -/

theorem exists_converts (literal : Literal) : ∃ result, Converts literal result := by
  cases literal with
  | integer integer => exact ⟨_, .integer integer⟩
  | _ => exact ⟨_, .other (fun _ => Literal.noConfusion)⟩

theorem exists_annotationFinds (typeName : Option String) :
    ∃ details, AnnotationFinds typeName details := by
  cases typeName with
  | none => exact ⟨_, .absent⟩
  | some found =>
    by_cases right : found = "u64"
    · subst right
      exact ⟨_, .right⟩
    · exact ⟨_, .wrong right⟩

theorem exists_valueFinds (value : Value) : ∃ details, ValueFinds value details := by
  obtain ⟨details, typed⟩ := exists_annotationFinds value.annotation
  obtain ⟨result, converts⟩ := exists_converts value.literal
  cases result with
  | ok n => exact ⟨_, .converted typed converts⟩
  | error fault => exact ⟨_, .refused typed converts⟩

theorem exists_least {names : List String} (some_name : names ≠ []) :
    ∃ name ∈ names, ∀ other ∈ names, name ≤ other := by
  have found : (names.minOn? id).isSome = true := List.isSome_minOn?_iff.2 some_name
  refine ⟨(names.minOn? id).get found, List.minOn?_mem (Option.some_get found).symm, ?_⟩
  intro other held
  exact List.apply_get_minOn?_le_of_mem (f := id) held

variable (setting : Setting)

theorem exists_nodeFinds (node : Node) : ∃ details final, NodeFinds setting node details final := by
  match arguments : node.arguments with
  | [] => exact ⟨_, _, .missing arguments⟩
  | value :: second :: others =>
    obtain ⟨details, finds⟩ := exists_valueFinds value
    exact ⟨_, _, .argument arguments finds⟩
  | [value] =>
    obtain ⟨details, finds⟩ := exists_valueFinds value
    by_cases bare : node.properties = []
    · exact ⟨_, _, .children arguments bare finds⟩
    · have named : node.properties.map Prod.fst ≠ [] := by
        rwa [Ne, List.map_eq_nil_iff]
      obtain ⟨name, held, least⟩ := exists_least named
      exact ⟨_, _, .property arguments held least finds⟩

theorem exists_finds (stated : Bool) (document : Document) :
    ∃ details, Finds setting stated document details := by
  induction document generalizing stated with
  | nil => exact ⟨_, .nothing⟩
  | cons node rest ih =>
    by_cases name : node.name = setting.node
    · cases stated with
      | true => exact ⟨_, .duplicate name⟩
      | false =>
        obtain ⟨details, final, finds⟩ := exists_nodeFinds setting node
        cases final with
        | true => exact ⟨_, .stopped name finds⟩
        | false =>
          obtain ⟨others, further⟩ := ih true
          exact ⟨_, .stated name finds further⟩
    · obtain ⟨details, finds⟩ := ih stated
      exact ⟨_, .unexpected name finds⟩

/-! Nothing is wrong with an empty document, nor with one whose only node has a value and nothing
else. -/

variable {setting} {document : Document} {node : Node} {details : List Detail} {stated final : Bool}

theorem NodeFinds.of_clean (finds : NodeFinds setting node details final) (clean : details = []) :
    final = false ∧ ∃ value, node.arguments = [value] ∧ node.properties = [] ∧
      node.children = [] ∧ ValueFinds value [] := by
  cases finds with
  | missing => cases clean
  | argument => exact absurd clean (List.append_ne_nil_of_right_ne_nil _ (List.cons_ne_nil _ _))
  | property => exact absurd clean (List.append_ne_nil_of_right_ne_nil _ (List.cons_ne_nil _ _))
  | @children value _ arguments properties finds =>
    obtain ⟨rfl, childless⟩ := List.append_eq_nil_iff.1 clean
    exact ⟨rfl, value, arguments, properties, List.map_eq_nil_iff.1 childless, finds⟩

theorem Finds.eq_nil_of_stated (finds : Finds setting true document []) : document = [] := by
  cases finds with
  | nothing => rfl

/-- A document with which nothing is wrong, though it is not empty. -/
structure SaysOnce (setting : Setting) (document : Document) (node : Node) (value : Value) :
    Prop where
  alone : document = [node]
  name : node.name = setting.node
  arguments : node.arguments = [value]
  properties : node.properties = []
  children : node.children = []
  finds : ValueFinds value []

theorem Finds.of_clean (finds : Finds setting false document []) :
    document = [] ∨ ∃ node value, SaysOnce setting document node value := by
  generalize clean : ([] : List Detail) = details at finds
  generalize first : false = stated at finds
  cases finds with
  | nothing => exact .inl rfl
  | unexpected => cases clean
  | duplicate => cases first
  | stopped _ finds => cases (finds.of_clean clean.symm).1
  | stated name finds further =>
    obtain ⟨rfl, rfl⟩ := List.append_eq_nil_iff.1 clean.symm
    obtain ⟨-, value, arguments, properties, children, finds⟩ := finds.of_clean rfl
    rw [further.eq_nil_of_stated]
    exact .inr ⟨_, value, rfl, name, arguments, properties, children, finds⟩

end Stepper.Kdl
