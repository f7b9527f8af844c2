import Stepper.Kdl.Document
import Stepper.Kdl.Reader
import Stepper.Text.Numeral

/-!
Number literals. Integers have a sign and a base mark if they want, and underscores anywhere behind
the first digit; a fraction or an exponent makes a decimal number.
-/
namespace Stepper.Kdl

/-- A sign, if there is one. -/
def readSign : List Char → Sign × List Char
  | '-' :: rest => (.minus, rest)
  | '+' :: rest => (.plus, rest)
  | cs => (.none, cs)

def isDigitOrGap (base : Base) (c : Char) : Bool :=
  c == '_' || (Numeral.digit? base.toNat c).isSome

/-- Reads a digit and then digits and underscores, which are left out. -/
def readDigits (sign : Sign) (base : Base) (cs : List Char) : Option (Integer × List Char) :=
  match cs with
  | [] => none
  | first :: _ =>
    if first = '_' then none
    else
      (Integer.ofDigits? sign base ((cs.takeWhile (isDigitOrGap base)).filter (· ≠ '_'))).map
        fun integer => (integer, cs.dropWhile (isDigitOrGap base))

def baseOfMark : Char → Option Base
  | 'b' => some .binary
  | 'o' => some .octal
  | 'x' => some .hexadecimal
  | _ => none

/-- Reads digits behind a base mark. -/
def readMarked (sign : Sign) : Reader Integer
  | '0' :: mark :: rest => (baseOfMark mark).bind fun base => readDigits sign base rest
  | _ => none

def skipFraction : Skipper
  | '.' :: rest => (readDigits .none .decimal rest).map Prod.snd
  | _ => none

/-- Skips an exponent, which may lack its digits. -/
def skipExponent : Skipper
  | c :: rest =>
    if c = 'e' ∨ c = 'E' then some ((readSign rest).2.dropWhile (isDigitOrGap .decimal)) else none
  | [] => none

def readNumber (cs : List Char) : Option (Literal × List Char) :=
  let (sign, rest) := readSign cs
  match readMarked sign rest with
  | some (integer, rest) => some (.integer integer, rest)
  | none =>
    (readDigits sign .decimal rest).map fun whole =>
      match skipFraction whole.2, skipExponent (skipMaybe skipFraction whole.2) with
      | none, none => (.integer whole.1, whole.2)
      | _, _ => (.decimal, skipMaybe skipExponent (skipMaybe skipFraction whole.2))

end Stepper.Kdl
