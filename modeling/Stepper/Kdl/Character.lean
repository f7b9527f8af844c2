/-!
The character classes of KDL. Newlines and spaces are listed; a name is made of what is neither of
the two, nor punctuation, nor a control character, and an exclamation mark may only begin it.
-/
namespace Stepper.Kdl

def isNewline (c : Char) : Bool :=
  c == '\n' || c == '\r' || c == '\x0C' || c == '\u0085' || c == '\u2028' || c == '\u2029'

/-- The spaces that also end a name. -/
def isBreakingSpace (c : Char) : Bool :=
  c == '\t' || c == ' ' || c == '\u00A0' || c == '\u1680' || ('\u2000' ≤ c && c ≤ '\u200A') ||
    c == '\u202F' || c == '\u205F' || c == '\u3000'

/-- A byte order mark is a space, but within a name it is a part of the name. -/
def isSpace (c : Char) : Bool := isBreakingSpace c || c == '\uFEFF'

def isSign (c : Char) : Bool := c == '+' || c == '-'

def isPunctuation (c : Char) : Bool := "\\/()\x7b\x7d<>;[]=,\"".toList.contains c

/-- What no name holds, apart from control characters. -/
def endsName (c : Char) : Bool := isPunctuation c || isBreakingSpace c || isNewline c

/-- A character of a name behind its start. -/
def isNamePart (c : Char) : Bool := !endsName c && '!' < c

/-- The start of a name, a sign aside. -/
def isNameStart (c : Char) : Bool := !endsName c && ' ' < c && !c.isDigit

end Stepper.Kdl
