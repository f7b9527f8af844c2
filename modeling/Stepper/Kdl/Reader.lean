/-!
A reader takes what it understands off the front of a text and returns it with the rest. A reader
that fails takes nothing. Repetition is bounded by a number that callers choose no smaller than the
length of the text, since every round takes a character at least.
-/
namespace Stepper.Kdl

abbrev Reader (α : Type) := List Char → Option (α × List Char)

/-- A reader whose result does not matter. -/
abbrev Skipper := List Char → Option (List Char)

/-- Reads as often as possible. -/
def many {α : Type} (read : Reader α) : Nat → List Char → List α × List Char
  | 0, cs => ([], cs)
  | bound + 1, cs =>
    match read cs with
    | none => ([], cs)
    | some (first, rest) =>
      let others := many read bound rest
      (first :: others.1, others.2)

/-- Skips as often as possible. -/
def skipMany (skip : Skipper) : Nat → List Char → List Char
  | 0, cs => cs
  | bound + 1, cs =>
    match skip cs with
    | none => cs
    | some rest => skipMany skip bound rest

/-- Skips once or not at all. -/
def skipMaybe (skip : Skipper) (cs : List Char) : List Char := (skip cs).getD cs

/-- Reads once or not at all. -/
def maybe {α : Type} (read : Reader α) (cs : List Char) : Option α × List Char :=
  match read cs with
  | some (value, rest) => (some value, rest)
  | none => (none, cs)

/-- Skips this text. -/
def skipText : List Char → Skipper
  | [], cs => some cs
  | _ :: _, [] => none
  | c :: text, d :: cs => if c = d then skipText text cs else none

end Stepper.Kdl
