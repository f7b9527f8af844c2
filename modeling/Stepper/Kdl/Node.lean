import Stepper.Kdl.Space
import Stepper.Kdl.Value

/-!
Nodes and whole documents. A node ends at a newline, a comment to the end of the line, a semicolon
or the end of the text, also when it has children in braces. A part behind a discard mark has to be
well formed and is left out.
-/
namespace Stepper.Kdl

/-- Reads something that may be discarded, which then is nothing. -/
def readUnlessDiscarded {α : Type} (bound : Nat) (read : Reader α) (cs : List Char) :
    Option (Option α × List Char) :=
  match skipDiscard bound cs with
  | some rest => (read rest).map fun (_, rest) => (none, rest)
  | none => (read cs).map fun (value, rest) => (some value, rest)

/-- Reads an entry with the space in front of it. -/
def readSpacedEntry (bound : Nat) (cs : List Char) : Option (Option Entry × List Char) :=
  (skipNodeSpace bound cs).bind fun rest =>
    readUnlessDiscarded bound readEntry (skipNodeSpaces bound rest)

/-- Reads what stands between braces. -/
def readBlock (body : List Char → List Node × List Char) : Reader (List Node)
  | '\x7b' :: rest =>
    match body rest with
    | (nodes, '\x7d' :: rest) => some (nodes, rest)
    | _ => none
  | _ => none

/-- Reads a block of child nodes with the space in front of it. -/
def readChildren (bound : Nat) (body : List Char → List Node × List Char) (cs : List Char) :
    Option (Option (List Node) × List Char) :=
  readUnlessDiscarded bound (readBlock body) (skipNodeSpaces bound cs)

def readNode (bound : Nat) (body : List Char → List Node × List Char) (cs : List Char) :
    Option (Node × List Char) :=
  let annotated := maybe readAnnotation cs
  (readName annotated.2).bind fun (name, rest) =>
    let entries := many (readSpacedEntry bound) bound rest
    let children := maybe (readChildren bound body) entries.2
    (skipTerminator (skipNodeSpaces bound children.2)).map fun rest =>
      ({ annotation := annotated.1
         name := name
         arguments := (entries.1.filterMap id).filterMap Entry.argument?
         properties := (entries.1.filterMap id).filterMap Entry.property?
         children := children.1.join.getD [] },
        rest)

/-- Reads a node, or a discarded one, with the space behind it. -/
def readItem (bound : Nat) (body : List Char → List Node × List Char) (cs : List Char) :
    Option (Option Node × List Char) :=
  (readUnlessDiscarded bound (readNode bound body) cs).map fun (node, rest) =>
    (node, skipLineSpaces bound rest)

/-- Reads nodes and all space around them, down to a depth that callers choose greater than the
number of opening braces. -/
def readNodes (bound : Nat) : Nat → List Char → List Node × List Char
  | 0, cs => ([], skipLineSpaces bound cs)
  | depth + 1, cs =>
    let items := many (readItem bound (readNodes bound depth)) bound (skipLineSpaces bound cs)
    (items.1.filterMap id, items.2)

/-- The document that a text is, if it is one. -/
def Document.ofText? (text : String) : Option Document :=
  let cs := text.toList
  let bound := cs.length + 1
  match readNodes bound bound cs with
  | (nodes, []) => some nodes
  | _ => none

end Stepper.Kdl
