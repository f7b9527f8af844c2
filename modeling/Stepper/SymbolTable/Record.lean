import Stepper.Address
import Stepper.Text.Blank

/-!
One line of a symbol file. What follows the first comment mark is ignored; a line then holds nothing
or a record, a label and its address.
-/
namespace Stepper.SymbolTable

/-- Why a line is refused. -/
inductive Fault where
  | invalidLabel (token : String)
  | missingAddress (label : String)
  | invalidAddress (token : String)
  | trailingToken (token : String)
deriving DecidableEq

def Fault.message : Fault → String
  | .invalidLabel token => s!"invalid label `{token}`"
  | .missingAddress label => s!"missing address for label `{label}`"
  | .invalidAddress token => s!"invalid address `{token}`"
  | .trailingToken token => s!"unexpected token `{token}`"

def isCommentMark (c : Char) : Bool := c == '#' || c == ';'

def uncommented (line : List Char) : List Char := line.takeWhile fun c => !isCommentMark c

def isLabelStart (c : Char) : Bool := c.isAlpha || c == '_' || c == '.'

def isLabelPart (c : Char) : Bool := c.isAlphanum || c == '_' || c == '.' || c == '$'

def isLabel : List Char → Bool
  | [] => false
  | c :: rest => isLabelStart c && rest.all isLabelPart

/-- The record that the tokens of a line make up; faults are looked for from left to right. -/
def recordOfTokens : List (List Char) → Except Fault (Option (String × Address))
  | [] => .ok none
  | label :: rest =>
    if isLabel label then
      match rest with
      | [] => .error (.missingAddress (String.ofList label))
      | token :: rest =>
        match Address.read? token, rest with
        | none, _ => .error (.invalidAddress (String.ofList token))
        | some _, extra :: _ => .error (.trailingToken (String.ofList extra))
        | some addr, [] => .ok (some (String.ofList label, addr))
    else .error (.invalidLabel (String.ofList label))

def recordOfLine (line : List Char) : Except Fault (Option (String × Address)) :=
  recordOfTokens (Text.tokens (uncommented line))

@[simp] theorem uncommented_nil : uncommented [] = [] := rfl

@[simp] theorem recordOfLine_nil : recordOfLine [] = .ok none := rfl

end Stepper.SymbolTable
