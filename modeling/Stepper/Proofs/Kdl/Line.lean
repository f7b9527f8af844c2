import Mathlib.Data.Bool.AllAny
import Stepper.Kdl.Decoder
import Stepper.Proofs.Kdl.Integer

/-!
A document of one line: a name, spaces, an integer and an end. The readers are followed from the
inside out. At each place it is the next character that tells what is not there, so that each reader
either takes its part or leaves the text alone.
-/
namespace Stepper.Kdl

/-- No space begins here, and nothing is discarded or continued. -/
def Solid (cs : List Char) : Prop := ∀ c ∈ cs.head?, c ≠ '\\' ∧ c ≠ '/' ∧ isSpace c = false

variable {α : Type} {bound : Nat} {c : Char} {name blanks cs rest : List Char} {integer : Integer}

theorem Spells.solid (spells : Spells cs integer) : Solid (cs ++ rest) := by
  have each : ∀ c ∈ numberStarts, c ≠ '\\' ∧ c ≠ '/' ∧ isSpace c = false :=
    List.all_iff_forall_prop.1 (by decide)
  obtain ⟨first, tail, rfl, start⟩ := spells.exists_first
  intro c begins
  rw [← Option.some.inj begins]
  exact each first start

/-! The end. -/

theorem isNewline_cases (newline : isNewline c = true) :
    c = '\n' ∨ c = '\r' ∨ c = '\x0C' ∨ c = '\u0085' ∨ c = '\u2028' ∨ c = '\u2029' := by
  simpa [isNewline, or_assoc] using newline

theorem Terminates.solid (ends : Terminates rest) : Solid rest := by
  intro c begins
  cases ends with
  | text => cases begins
  | semicolon | twoCharacters =>
    cases begins
    decide
  | newline newline =>
    cases begins
    rcases isNewline_cases newline with rfl | rfl | rfl | rfl | rfl | rfl <;> decide

theorem Terminates.closes (ends : Terminates rest) : Closes rest := by
  intro c begins
  cases ends with
  | text => cases begins
  | semicolon | twoCharacters =>
    cases begins
    decide
  | newline newline =>
    cases begins
    unfold endsName
    rw [newline, Bool.or_true]

theorem Terminates.skipTerminator_eq (ends : Terminates rest) : skipTerminator rest = some [] := by
  cases ends with
  | text | semicolon | twoCharacters => rfl
  | newline newline =>
    rcases isNewline_cases newline with rfl | rfl | rfl | rfl | rfl | rfl <;> rfl

theorem Terminates.readBlock_eq {body : List Char → List Node × List Char}
    (ends : Terminates rest) : readBlock body rest = none := by
  cases ends with
  | text | semicolon | twoCharacters => rfl
  | newline newline =>
    rcases isNewline_cases newline with rfl | rfl | rfl | rfl | rfl | rfl <;> rfl

/-! Space. -/

theorem skipNodeSpace_of_solid (solid : Solid cs) : skipNodeSpace bound cs = none := by
  unfold skipNodeSpace
  split
  · exact absurd rfl (solid '\\' rfl).1
  · unfold skipSpace
    split
    · exact absurd rfl (solid '/' rfl).2.1
    · next c rest _ _ =>
      apply if_neg
      simp [(solid c rfl).2.2]
    · rfl

theorem skipNodeSpaces_of_solid (solid : Solid cs) : skipNodeSpaces bound cs = cs := by
  unfold skipNodeSpaces
  cases bound with
  | zero => rfl
  | succ bound => rw [skipMany, skipNodeSpace_of_solid solid]

theorem isSpace_of_isBreakingSpace (space : isBreakingSpace c = true) : isSpace c = true := by
  unfold isSpace
  rw [space, Bool.true_or]

theorem skipNodeSpace_blanks (spaces : Blanks blanks) (solid : Solid cs) :
    skipNodeSpace bound (blanks ++ cs) = some cs := by
  obtain ⟨filled, each⟩ := spaces
  obtain ⟨first, others, rfl⟩ := List.exists_cons_of_ne_nil filled
  obtain ⟨breaking, spaces⟩ := List.forall_mem_cons.1 each
  have left : (others ++ cs).dropWhile isSpace = cs := by
    rw [List.dropWhile_append_of_pos fun c held => isSpace_of_isBreakingSpace (spaces c held)]
    cases cs with
    | nil => rfl
    | cons c cs => exact List.dropWhile_cons_of_neg (by simp [(solid c rfl).2.2])
  rw [List.cons_append]
  unfold skipNodeSpace
  split
  · next mark =>
    rw [(List.cons.inj mark).1] at breaking
    exact absurd breaking (by decide)
  · unfold skipSpace
    split
    · next mark =>
      rw [(List.cons.inj mark).1] at breaking
      exact absurd breaking (by decide)
    · next same =>
      cases same
      rw [if_pos (isSpace_of_isBreakingSpace breaking), left]
    · next empty => cases empty

theorem skipDiscard_of_solid (solid : Solid cs) : skipDiscard bound cs = none := by
  cases cs with
  | nil => rfl
  | cons c cs =>
    have other : ¬ '/' = c := fun same => (solid c rfl).2.1 same.symm
    simp [skipDiscard, skipText, other]

theorem readUnlessDiscarded_of_solid {read : Reader α} (solid : Solid cs) :
    readUnlessDiscarded bound read cs = (read cs).map fun (value, rest) => (some value, rest) := by
  unfold readUnlessDiscarded
  rw [skipDiscard_of_solid solid]

/-! The name. -/

theorem not_endsName_of_isNameStart (start : isNameStart c = true) : endsName c = false := by
  unfold isNameStart at start
  rw [Bool.and_eq_true, Bool.and_eq_true, Bool.not_eq_true'] at start
  exact start.1.1

theorem ne_of_isNameStart {mark : Char} (start : isNameStart c = true)
    (other : isNameStart mark = false) : c ≠ mark := by
  rintro rfl
  rw [start] at other
  cases other

theorem BareName.solid (bare : BareName name) : Solid (name ++ cs) := by
  obtain ⟨first, others, rfl, start, -, visible, -⟩ := bare.start
  intro c begins
  cases begins
  have noMark : first ≠ '\\' := ne_of_isNameStart start (by decide)
  have noSlash : first ≠ '/' := ne_of_isNameStart start (by decide)
  exact ⟨noMark, noSlash, visible⟩

theorem BareName.skipLineSpace_eq (bare : BareName name) :
    skipLineSpace bound (name ++ cs) = none := by
  obtain ⟨first, others, rfl, start, -, visible, -⟩ := bare.start
  have noNewline : skipNewline (first :: (others ++ cs)) = none := by
    unfold skipNewline
    split
    · next mark => exact absurd (List.cons.inj mark).1 (ne_of_isNameStart start (by decide))
    · next same =>
      cases same
      apply if_neg
      intro newline
      have ends := not_endsName_of_isNameStart start
      simp [endsName, newline] at ends
    · rfl
  have noMark : ¬ '/' = first := (ne_of_isNameStart start (by decide)).symm
  have noSpace : skipSpace bound (first :: (others ++ cs)) = none := by
    unfold skipSpace
    split
    · next mark => exact absurd (List.cons.inj mark).1.symm noMark
    · next same =>
      cases same
      exact if_neg (by simp [visible])
    · rfl
  rw [List.cons_append, skipLineSpace, noNewline, noSpace, skipLineComment, skipText, if_neg noMark]
  rfl

theorem BareName.readAnnotation_eq (bare : BareName name) : readAnnotation (name ++ cs) = none := by
  obtain ⟨first, others, rfl, start, -⟩ := bare.start
  unfold readAnnotation
  split
  · next mark => exact absurd (List.cons.inj mark).1 (ne_of_isNameStart start (by decide))
  · rfl

theorem isDigitOrGap_of_isNameStart (start : isNameStart c = true) (other : c ≠ '_') :
    isDigitOrGap .decimal c = false := by
  rw [← Bool.not_eq_true]
  unfold isDigitOrGap
  rw [Bool.or_eq_true, beq_iff_eq, Option.isSome_iff_exists]
  rintro (gap | ⟨value, read⟩)
  · exact other gap
  · have each : ∀ c ∈ decimalDigits, isNameStart c = false := List.all_iff_forall_prop.1 (by decide)
    have digit := (Numeral.digit?_eq_some_iff (Base.toNat_le .decimal)).1 read
    rw [each c (mem_decimalDigits_of_isDigit digit)] at start
    cases start

theorem BareName.readNumber_eq (bare : BareName name) : readNumber (name ++ cs) = none := by
  obtain ⟨first, others, rfl, start, unsigned, -⟩ := bare.start
  have signed : readSign (first :: (others ++ cs)) = (.none, first :: (others ++ cs)) := by
    unfold readSign
    split
    · next minus =>
      cases minus
      exact absurd unsigned (by decide)
    · next plus =>
      cases plus
      exact absurd unsigned (by decide)
    · rfl
  have unmarked : readMarked .none (first :: (others ++ cs)) = none := by
    unfold readMarked
    split
    · next mark => exact absurd (List.cons.inj mark).1 (ne_of_isNameStart start (by decide))
    · rfl
  have digitless : readDigits .none .decimal (first :: (others ++ cs)) = none := by
    unfold readDigits
    by_cases gap : first = '_'
    · exact if_pos gap
    · have stops := isDigitOrGap_of_isNameStart start gap
      dsimp only
      rw [if_neg gap, List.takeWhile_cons_of_neg (by rw [stops]; exact Bool.false_ne_true)]
      rfl
  rw [List.cons_append, readNumber, signed]
  dsimp only
  rw [unmarked, digitless]
  rfl

theorem BareName.readName_eq (bare : BareName name) (ends : endsName c = true) :
    readName (name ++ c :: cs) = some (String.ofList name, c :: cs) := by
  have number : readNumber (name ++ c :: cs) = none := bare.readNumber_eq
  have keyword : isKeyword name = false := by
    have other := bare.noKeyword
    simp only [List.mem_cons, List.not_mem_nil, or_false, not_or] at other
    simpa only [isKeyword, Bool.or_eq_false_iff, beq_eq_false_iff_ne, and_assoc] using other
  obtain ⟨first, others, rfl, start, unsigned, -, parts⟩ := bare.start
  have stops : ¬ isNamePart c = true := by simp [isNamePart, ends]
  have taken : (others ++ c :: cs).takeWhile isNamePart = others := by
    rw [List.takeWhile_append_of_pos parts, List.takeWhile_cons_of_neg stops, List.append_nil]
  have left : (others ++ c :: cs).dropWhile isNamePart = c :: cs := by
    rw [List.dropWhile_append_of_pos parts, List.dropWhile_cons_of_neg stops]
  have alike : readNameLike (first :: (others ++ c :: cs)) = some (first :: others, c :: cs) := by
    unfold readNameLike
    dsimp only
    rw [unsigned, if_neg Bool.false_ne_true, if_pos start, taken, left]
  rw [List.cons_append] at number ⊢
  rw [readName, number, readBareName, alike, Option.bind_some]
  dsimp only
  rw [keyword]
  rfl

/-! The argument. -/

theorem skipText_of_ne {d : Char} {text : List Char} (other : d ≠ c) :
    skipText (d :: text) (c :: cs) = none :=
  if_neg other

theorem readString_of_numberStart (start : c ∈ numberStarts) : readString (c :: cs) = none := by
  have raw : readRaw (c :: cs) = none := by
    unfold readRaw
    split
    · next mark =>
      rw [(List.cons.inj mark).1] at start
      exact absurd start (by decide)
    · rfl
  have quoted : readQuoted (c :: cs) = none := by
    unfold readQuoted
    split
    · next quote =>
      rw [(List.cons.inj quote).1] at start
      exact absurd start (by decide)
    · rfl
  unfold readString
  rw [raw, quoted]
  rfl

theorem readKeyword_of_numberStart (start : c ∈ numberStarts) : readKeyword (c :: cs) = none := by
  have each : ∀ c ∈ numberStarts, 'n' ≠ c ∧ 't' ≠ c ∧ 'f' ≠ c :=
    List.all_iff_forall_prop.1 (by decide)
  obtain ⟨null, yes, no⟩ := each c start
  unfold readKeyword
  rw [show "null".toList = 'n' :: "ull".toList from rfl, skipText_of_ne null,
    show "true".toList = 't' :: "rue".toList from rfl, skipText_of_ne yes,
    show "false".toList = 'f' :: "alse".toList from rfl, skipText_of_ne no]
  rfl

theorem readLiteral_of_numberStart (start : c ∈ numberStarts) :
    readLiteral (c :: cs) = readNumber (c :: cs) := by
  unfold readLiteral
  rw [readString_of_numberStart start, readKeyword_of_numberStart start]
  rfl

theorem readEntry_integer (spells : Spells cs integer) (closes : Closes rest) :
    readEntry (cs ++ rest) = some (.argument ⟨none, .integer integer⟩, rest) := by
  have literal : readLiteral (cs ++ rest) = some (.integer integer, rest) := by
    rw [← readNumber_append spells closes]
    obtain ⟨first, tail, rfl, start⟩ := spells.exists_first
    exact readLiteral_of_numberStart start
  unfold readEntry
  rw [literal]

theorem readSpacedEntry_integer (spaces : Blanks blanks) (spells : Spells cs integer)
    (closes : Closes rest) :
    readSpacedEntry bound (blanks ++ (cs ++ rest)) =
      some (some (.argument ⟨none, .integer integer⟩), rest) := by
  unfold readSpacedEntry
  rw [skipNodeSpace_blanks spaces spells.solid, Option.bind_some,
    skipNodeSpaces_of_solid spells.solid, readUnlessDiscarded_of_solid spells.solid,
    readEntry_integer spells closes]
  rfl

theorem readSpacedEntry_of_solid (solid : Solid cs) : readSpacedEntry bound cs = none := by
  unfold readSpacedEntry
  rw [skipNodeSpace_of_solid solid, Option.bind_none]

/-! The node. -/

theorem many_once {read : Reader α} {value : α} (first : read cs = some (value, rest))
    (stop : read rest = none) : many read (bound + 2) cs = ([value], rest) := by
  simp [many, first, stop]

theorem readChildren_of_terminates {body : List Char → List Node × List Char}
    (ends : Terminates rest) : readChildren bound body rest = none := by
  unfold readChildren
  rw [skipNodeSpaces_of_solid ends.solid, readUnlessDiscarded_of_solid ends.solid,
    ends.readBlock_eq]
  rfl

variable (bare : BareName name) (spaces : Blanks blanks) (spells : Spells cs integer)
  (ends : Terminates rest)

include bare spaces spells ends

theorem readNode_line {body : List Char → List Node × List Char} :
    readNode (bound + 2) body (name ++ (blanks ++ (cs ++ rest))) =
      some (.single (String.ofList name) ⟨none, .integer integer⟩, []) := by
  have named : readName (name ++ (blanks ++ (cs ++ rest))) =
      some (String.ofList name, blanks ++ (cs ++ rest)) := by
    obtain ⟨filled, each⟩ := spaces
    obtain ⟨first, others, rfl⟩ := List.exists_cons_of_ne_nil filled
    have breaking := (List.forall_mem_cons.1 each).1
    exact bare.readName_eq (by simp [endsName, breaking])
  have entries : many (readSpacedEntry (bound + 2)) (bound + 2) (blanks ++ (cs ++ rest)) =
      ([some (.argument ⟨none, .integer integer⟩)], rest) :=
    many_once (readSpacedEntry_integer spaces spells ends.closes)
      (readSpacedEntry_of_solid ends.solid)
  have childless : maybe (readChildren (bound + 2) body) rest = (none, rest) := by
    rw [maybe, readChildren_of_terminates ends]
  have untyped : maybe readAnnotation (name ++ (blanks ++ (cs ++ rest))) =
      (none, name ++ (blanks ++ (cs ++ rest))) := by
    rw [maybe, bare.readAnnotation_eq]
  simp only [readNode, untyped, named, Option.bind_some, entries, childless,
    skipNodeSpaces_of_solid ends.solid, ends.skipTerminator_eq]
  rfl

theorem ofText?_line :
    Document.ofText? (String.ofList (name ++ blanks ++ cs ++ rest)) =
      some [.single (String.ofList name) ⟨none, .integer integer⟩] := by
  rw [List.append_assoc, List.append_assoc]
  generalize split : name ++ (blanks ++ (cs ++ rest)) = text
  obtain ⟨bound, long⟩ : ∃ bound, text.length + 1 = bound + 2 := by
    obtain ⟨first, others, rfl, -⟩ := bare.start
    rw [← split]
    exact ⟨_, rfl⟩
  have node (body : List Char → List Node × List Char) : readItem (bound + 2) body text =
      some (some (.single (String.ofList name) ⟨none, .integer integer⟩), []) := by
    unfold readItem
    rw [← split, readUnlessDiscarded_of_solid bare.solid, readNode_line bare spaces spells ends]
    rfl
  have begins : skipLineSpaces (bound + 2) text = text := by
    rw [skipLineSpaces, skipMany, ← split, bare.skipLineSpace_eq]
  unfold Document.ofText?
  dsimp only
  rw [String.toList_ofList, long, readNodes, begins, many_once (node _) rfl]
  rfl

omit bare spaces spells ends

theorem library_readsLines : library.ReadsLines :=
  fun bare spaces spells ends => ofText?_line bare spaces spells ends

end Stepper.Kdl
