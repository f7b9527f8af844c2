/-!
The blank characters, as the Unicode property White_Space lists them. Tokens of a line are what
stands between them. A line ends at a line feed, with or without a carriage return before it.
-/
namespace Stepper.Text

/-- The code points with the property White_Space, as closed ranges. -/
def blankRanges : List (Nat × Nat) :=
  [(0x9, 0xD), (0x20, 0x20), (0x85, 0x85), (0xA0, 0xA0), (0x1680, 0x1680), (0x2000, 0x200A),
    (0x2028, 0x2029), (0x202F, 0x202F), (0x205F, 0x205F), (0x3000, 0x3000)]

def isBlank (c : Char) : Bool :=
  blankRanges.any fun range => range.1 ≤ c.toNat && c.toNat ≤ range.2

/-- The maximal runs of characters that are not blank, from left to right. -/
def tokens (cs : List Char) : List (List Char) :=
  (cs.splitOnP isBlank).filter fun token => !token.isEmpty

@[simp] theorem tokens_nil : tokens [] = [] := rfl

/-- What stands between the line feeds, also before the first and behind the last of them. -/
def rawLines (cs : List Char) : List (List Char) := cs.splitOn '\n'

@[simp] theorem rawLines_nil : rawLines [] = [[]] := rfl

/-- Leaves out a carriage return at the end, which belongs to the line feed behind it. -/
def withoutReturn (line : List Char) : List Char :=
  if line.getLast? = some '\r' then line.dropLast else line

/-- The last line needs no line feed; behind a line feed it counts only if it holds something. -/
def trimmedLines : List (List Char) → List (List Char)
  | [] => []
  | [last] => if last.isEmpty then [] else [last]
  | line :: rest => withoutReturn line :: trimmedLines rest

def lines (cs : List Char) : List (List Char) := trimmedLines (rawLines cs)

@[simp] theorem lines_nil : lines [] = [] := rfl

end Stepper.Text
