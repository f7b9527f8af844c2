import Stepper.Text.Numeral

/-!
Escaped text shows any string in printable ASCII: tab, carriage return, line feed, quotes and the
backslash behind a backslash, and every other character outside the printable range by its code
point.
-/
namespace Stepper.Text

def escapeChar (c : Char) : List Char :=
  match c with
  | '\t' => ['\\', 't']
  | '\r' => ['\\', 'r']
  | '\n' => ['\\', 'n']
  | '\'' => ['\\', '\'']
  | '"' => ['\\', '"']
  | '\\' => ['\\', '\\']
  | c =>
    if ' ' ≤ c ∧ c ≤ '~' then [c]
    else ['\\', 'u', '\x7b'] ++ Nat.toDigits 16 c.toNat ++ ['\x7d']

def escape (text : String) : String := String.ofList (text.toList.flatMap escapeChar)

end Stepper.Text
