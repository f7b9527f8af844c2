import Stepper.Kdl.Character
import Stepper.Kdl.Reader

/-!
What may stand between the parts of a document: spaces, newlines, comments to the end of a line,
block comments, which nest, and lines that are continued.
-/
namespace Stepper.Kdl

/-- Skips one newline; a carriage return takes a line feed behind it along. -/
def skipNewline : Skipper
  | '\r' :: '\n' :: rest => some rest
  | c :: rest => if isNewline c then some rest else none
  | [] => none

/-- Skips a comment with the newline that ends it. -/
def skipLineComment (cs : List Char) : Option (List Char) :=
  (skipText ['/', '/'] cs).map fun rest =>
    skipMaybe skipNewline (rest.dropWhile fun c => !isNewline c)

/-- Skips to the end of a block comment that has begun. An opening mark inside begins a comment of
its own if that one ends, and is ordinary text otherwise. -/
def skipCommentBody : Nat → Skipper
  | 0, _ => none
  | _ + 1, [] => none
  | _ + 1, '*' :: '/' :: rest => some rest
  | bound + 1, '/' :: '*' :: rest =>
    match skipCommentBody bound rest with
    | some rest => skipCommentBody bound rest
    | none => skipCommentBody bound ('*' :: rest)
  | bound + 1, _ :: rest => skipCommentBody bound rest

/-- Skips a run of spaces or one block comment. -/
def skipSpace (bound : Nat) : Skipper
  | '/' :: '*' :: rest => skipCommentBody bound rest
  | c :: rest => if isSpace c then some (rest.dropWhile isSpace) else none
  | [] => none

/-- Skips what may stand between nodes. -/
def skipLineSpace (bound : Nat) (cs : List Char) : Option (List Char) :=
  skipNewline cs <|> skipSpace bound cs <|> skipLineComment cs

/-- Skips what may stand between the parts of a node. -/
def skipNodeSpace (bound : Nat) : Skipper
  | '\\' :: rest =>
    let rest := skipMany (skipSpace bound) bound rest
    skipLineComment rest <|> skipNewline rest
  | cs => skipSpace bound cs

def skipNodeSpaces (bound : Nat) (cs : List Char) : List Char :=
  skipMany (skipNodeSpace bound) bound cs

def skipLineSpaces (bound : Nat) (cs : List Char) : List Char :=
  skipMany (skipLineSpace bound) bound cs

/-- Skips the end of a node, which the end of the text also is. -/
def skipTerminator : Skipper
  | [] => some []
  | ';' :: rest => some rest
  | cs => skipNewline cs <|> skipLineComment cs

/-- Skips the mark that discards what follows it, and the space behind the mark. -/
def skipDiscard (bound : Nat) (cs : List Char) : Option (List Char) :=
  (skipText ['/', '-'] cs).map (skipNodeSpaces bound)

end Stepper.Kdl
