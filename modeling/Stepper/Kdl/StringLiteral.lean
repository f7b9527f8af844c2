import Stepper.Kdl.Reader
import Stepper.Text.Numeral

/-!
String literals, quoted with escapes or raw between marks. A quoted string may run over several
lines; a raw string ends at the first quote with as many hashes behind it as it began with.
-/
namespace Stepper.Kdl

/-- The character that stands behind a backslash for another one. -/
def escaped? : Char → Option Char
  | '"' => some '"'
  | '\\' => some '\\'
  | '/' => some '/'
  | 'b' => some '\x08'
  | 'f' => some '\x0C'
  | 'n' => some '\n'
  | 'r' => some '\r'
  | 't' => some '\t'
  | _ => none

def scalar? (n : Nat) : Option Char := if n.isValidChar then some (Char.ofNat n) else none

def isHexDigit (c : Char) : Bool := (Numeral.digit? 16 c).isSome

/-- Reads the code point of an escape, one to six hexadecimal digits between braces. -/
def readCodePoint : Reader Char
  | '\x7b' :: rest =>
    match rest.takeWhile isHexDigit, rest.dropWhile isHexDigit with
    | digits, '\x7d' :: rest =>
      if digits.length ≤ 6 then ((Numeral.digits? 16 digits).bind scalar?).map (·, rest) else none
    | _, _ => none
  | _ => none

theorem length_lt_of_readCodePoint {cs rest : List Char} {c : Char}
    (h : readCodePoint cs = some (c, rest)) : rest.length < cs.length := by
  unfold readCodePoint at h
  split at h
  · next inner =>
    split at h
    · next digits tail closing =>
      have shorter := (List.dropWhile_sublist isHexDigit (l := inner)).length_le
      rw [closing] at shorter
      split at h
      · simp only [Option.map_eq_some_iff, Prod.mk.injEq] at h
        obtain ⟨_, _, _, rfl⟩ := h
        simp only [List.length_cons] at shorter ⊢
        omega
      · contradiction
    · contradiction
  · contradiction

/-- Reads a quoted string to its end; `read` holds the characters so far, the last one first. -/
def readQuotedBody (read : List Char) (cs : List Char) : Option (List Char × List Char) :=
  match cs with
  | [] => none
  | '"' :: rest => some (read.reverse, rest)
  | '\\' :: 'u' :: rest =>
    match h : readCodePoint rest with
    | some (c, tail) =>
      have := length_lt_of_readCodePoint h
      readQuotedBody (c :: read) tail
    | none => none
  | '\\' :: mark :: rest =>
    match escaped? mark with
    | some c => readQuotedBody (c :: read) rest
    | none => none
  | c :: rest => if c = '\\' then none else readQuotedBody (c :: read) rest
termination_by cs.length
decreasing_by all_goals simp only [List.length_cons]; omega

/-- Reads a raw string to its end; `read` holds the characters so far, the last one first. -/
def readRawBody (hashes : Nat) (read : List Char) : List Char → Option (List Char × List Char)
  | [] => none
  | c :: rest =>
    match c, skipText (List.replicate hashes '#') rest with
    | '"', some rest => some (read.reverse, rest)
    | c, _ => readRawBody hashes (c :: read) rest

def readRaw : Reader (List Char)
  | 'r' :: rest =>
    match rest.dropWhile (· == '#') with
    | '"' :: body => readRawBody (rest.takeWhile (· == '#')).length [] body
    | _ => none
  | _ => none

def readQuoted : Reader (List Char)
  | '"' :: rest => readQuotedBody [] rest
  | _ => none

def readString (cs : List Char) : Option (String × List Char) :=
  (readRaw cs <|> readQuoted cs).map fun (text, rest) => (String.ofList text, rest)

end Stepper.Kdl
