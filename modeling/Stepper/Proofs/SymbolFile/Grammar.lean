import Stepper.Proofs.Text.Spelling
import Stepper.Proofs.Text.Splitting
import Stepper.SymbolTable.Record

/-!
The grammar of symbol files. Each line reads as a record or is refused for one reason, and the
reader of a line finds out which.
-/
namespace Stepper.SymbolTable

def CommentMark (c : Char) : Prop := c = '#' ∨ c = ';'

/-- The part of a line that stands before its first comment mark. -/
def Content (line content : List Char) : Prop :=
  (∀ c ∈ content, ¬ CommentMark c) ∧
    ∃ comment, line = content ++ comment ∧ ∀ c ∈ comment.head?, CommentMark c

def Holds (line : List Char) (tokens : List (List Char)) : Prop :=
  ∃ content, Content line content ∧ Text.Tokens content tokens

def LabelStart (c : Char) : Prop :=
  ('A' ≤ c ∧ c ≤ 'Z') ∨ ('a' ≤ c ∧ c ≤ 'z') ∨ c = '_' ∨ c = '.'

def LabelPart (c : Char) : Prop :=
  LabelStart c ∨ ('0' ≤ c ∧ c ≤ '9') ∨ c = '$'

inductive Label : List Char → Prop where
  | intro {first : Char} {rest : List Char} (start : LabelStart first)
    (parts : ∀ c ∈ rest, LabelPart c) : Label (first :: rest)

inductive Record : List (List Char) → Option (String × Address) → Prop where
  | blank : Record [] none
  | pair {label token : List Char} {addr : Address} (named : Label label)
    (spelled : Address.Spells token addr) :
    Record [label, token] (some (String.ofList label, addr))

/-- A fault is looked for only where the tokens before it are in order. -/
inductive Refused : List (List Char) → Fault → Prop where
  | invalidLabel {label : List Char} {rest : List (List Char)} (misnamed : ¬ Label label) :
    Refused (label :: rest) (.invalidLabel (String.ofList label))
  | missingAddress {label : List Char} (named : Label label) :
    Refused [label] (.missingAddress (String.ofList label))
  | invalidAddress {label token : List Char} {rest : List (List Char)} (named : Label label)
    (misspelled : ∀ addr, ¬ Address.Spells token addr) :
    Refused (label :: token :: rest) (.invalidAddress (String.ofList token))
  | trailingToken {label token extra : List Char} {rest : List (List Char)} {addr : Address}
    (named : Label label) (spelled : Address.Spells token addr) :
    Refused (label :: token :: extra :: rest) (.trailingToken (String.ofList extra))

def Reads (line : List Char) (record : Option (String × Address)) : Prop :=
  ∃ tokens, Holds line tokens ∧ Record tokens record

def Refuses (line : List Char) (fault : Fault) : Prop :=
  ∃ tokens, Holds line tokens ∧ Refused tokens fault

def ReadsAll (text : List Char) (held : List (Option (String × Address))) : Prop :=
  ∃ lines, Text.Lines text lines ∧ List.Forall₂ Reads lines held

/-- The first line that is not read stands behind `earlier`; nothing is said of those below it. -/
def RefusesBehind (text : List Char) (earlier : List (List Char)) (fault : Fault) : Prop :=
  (∀ before ∈ earlier, '\n' ∉ before ∧ ∃ record, Reads before record) ∧
    ∃ line back, text = Text.terminated earlier ++ line ++ back ∧ '\n' ∉ line ∧
      (∀ c ∈ back.head?, c = '\n') ∧ Refuses line fault

theorem isCommentMark_iff {c : Char} : isCommentMark c = true ↔ CommentMark c := by
  simp [isCommentMark, CommentMark]

theorem uncommented_eq_iff {line content : List Char} :
    uncommented line = content ↔ Content line content := by
  unfold uncommented Content
  simp only [← isCommentMark_iff, Bool.not_eq_true]
  constructor
  · rintro rfl
    refine ⟨?_, line.dropWhile fun c => !isCommentMark c, ?_, ?_⟩
    · intro c member
      simpa using List.all_eq_true.1 List.all_takeWhile c member
    · exact List.takeWhile_append_dropWhile.symm
    · intro c first
      have := List.head?_dropWhile_not (fun c => !isCommentMark c) line
      rw [first] at this
      simpa using this
  · rintro ⟨clean, comment, rfl, mark⟩
    rw [List.takeWhile_append_of_pos (by simpa using clean)]
    cases comment with
    | nil => simp
    | cons c rest => simp [mark c rfl]

theorem tokens_uncommented_eq_iff {line : List Char} {tokens : List (List Char)} :
    Text.tokens (uncommented line) = tokens ↔ Holds line tokens := by
  unfold Holds
  simp only [← uncommented_eq_iff, Text.tokens_eq_iff, exists_eq_left']

theorem isLabelStart_iff {c : Char} : isLabelStart c = true ↔ LabelStart c := by
  change (decide ('A' ≤ c ∧ c ≤ 'Z') || decide ('a' ≤ c) && decide (c ≤ 'z') || c == '_' ||
    c == '.') = true ↔ LabelStart c
  simp only [LabelStart, Bool.or_eq_true, Bool.and_eq_true, decide_eq_true_eq, beq_iff_eq, or_assoc]

theorem isLabelPart_iff {c : Char} : isLabelPart c = true ↔ LabelPart c := by
  unfold LabelPart
  rw [← isLabelStart_iff]
  change (c.isAlpha || decide ('0' ≤ c) && decide (c ≤ '9') || c == '_' || c == '.' || c == '$') =
    true ↔ _
  simp only [isLabelStart, Bool.or_eq_true, Bool.and_eq_true, decide_eq_true_eq, beq_iff_eq]
  grind

theorem isLabel_iff {label : List Char} : isLabel label = true ↔ Label label := by
  cases label with
  | nil =>
    simp only [isLabel, Bool.false_eq_true, false_iff]
    rintro ⟨⟩
  | cons first rest =>
    simp only [isLabel, Bool.and_eq_true, List.all_eq_true, isLabelStart_iff, isLabelPart_iff]
    constructor
    · rintro ⟨start, parts⟩
      exact .intro start parts
    · rintro ⟨start, parts⟩
      exact ⟨start, parts⟩

theorem Record.recordOfTokens_eq {tokens : List (List Char)}
    {record : Option (String × Address)} (made : Record tokens record) :
    recordOfTokens tokens = .ok record := by
  cases made with
  | blank => rfl
  | pair named spelled =>
    simp only [recordOfTokens, isLabel_iff.2 named, Address.read?_eq_some_iff.2 spelled, if_true]

theorem Refused.recordOfTokens_eq {tokens : List (List Char)} {fault : Fault}
    (refused : Refused tokens fault) :
    recordOfTokens tokens = .error fault := by
  cases refused with
  | invalidLabel misnamed =>
    unfold recordOfTokens
    exact if_neg (mt isLabel_iff.1 misnamed)
  | missingAddress named => simp only [recordOfTokens, isLabel_iff.2 named, if_true]
  | invalidAddress named misspelled =>
    simp only [recordOfTokens, isLabel_iff.2 named, Address.read?_eq_none_iff.2 misspelled, if_true]
  | trailingToken named spelled =>
    simp only [recordOfTokens, isLabel_iff.2 named, Address.read?_eq_some_iff.2 spelled, if_true]

theorem record_or_refused (tokens : List (List Char)) :
    (∃ record, Record tokens record) ∨ ∃ fault, Refused tokens fault := by
  match tokens with
  | [] => exact .inl ⟨none, .blank⟩
  | label :: rest =>
    by_cases named : Label label
    · match rest with
      | [] => exact .inr ⟨_, .missingAddress named⟩
      | token :: rest =>
        by_cases spelled : ∃ addr, Address.Spells token addr
        · obtain ⟨addr, spelled⟩ := spelled
          match rest with
          | [] => exact .inl ⟨_, .pair named spelled⟩
          | _ :: _ => exact .inr ⟨_, .trailingToken named spelled⟩
        · exact .inr ⟨_, .invalidAddress named (not_exists.1 spelled)⟩
    · exact .inr ⟨_, .invalidLabel named⟩

theorem recordOfTokens_eq_ok_iff {tokens : List (List Char)}
    {record : Option (String × Address)} :
    recordOfTokens tokens = .ok record ↔ Record tokens record := by
  refine ⟨fun read => ?_, Record.recordOfTokens_eq⟩
  rcases record_or_refused tokens with ⟨_, made⟩ | ⟨_, refused⟩
  · cases read.symm.trans made.recordOfTokens_eq
    exact made
  · cases read.symm.trans refused.recordOfTokens_eq

theorem recordOfTokens_eq_error_iff {tokens : List (List Char)} {fault : Fault} :
    recordOfTokens tokens = .error fault ↔ Refused tokens fault := by
  refine ⟨fun read => ?_, Refused.recordOfTokens_eq⟩
  rcases record_or_refused tokens with ⟨_, made⟩ | ⟨_, refused⟩
  · cases read.symm.trans made.recordOfTokens_eq
  · cases read.symm.trans refused.recordOfTokens_eq
    exact refused

theorem recordOfLine_eq_ok_iff {line : List Char} {record : Option (String × Address)} :
    recordOfLine line = .ok record ↔ Reads line record := by
  unfold recordOfLine Reads
  simp only [recordOfTokens_eq_ok_iff, ← tokens_uncommented_eq_iff, exists_eq_left']

theorem recordOfLine_eq_error_iff {line : List Char} {fault : Fault} :
    recordOfLine line = .error fault ↔ Refuses line fault := by
  unfold recordOfLine Refuses
  simp only [recordOfTokens_eq_error_iff, ← tokens_uncommented_eq_iff, exists_eq_left']

end Stepper.SymbolTable
