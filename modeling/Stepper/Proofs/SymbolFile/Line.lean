import Stepper.Proofs.SymbolFile.Grammar

/-!
What makes no difference within a line: a comment, blanks that part no token, and a carriage return
at the end. A line of blanks and a comment declares nothing.
-/
namespace Stepper.SymbolTable

open Text

/-- What stands in a comment, or begins one, is no part of a line. -/
theorem uncommented_append_of_comment {line more : List Char}
    (comment : (∃ c ∈ line, CommentMark c) ∨ ∀ c ∈ more.head?, CommentMark c) :
    uncommented (line ++ more) = uncommented line := by
  obtain ⟨clean, rest, same, starts⟩ : Content line (uncommented line) := uncommented_eq_iff.1 rfl
  apply uncommented_eq_iff.2
  refine ⟨clean, rest ++ more, ?_, ?_⟩
  · rw [← List.append_assoc, ← same]
  · cases rest with
    | cons c rest => exact starts
    | nil =>
      rcases comment with ⟨c, held, mark⟩ | begins
      · rw [same, List.append_nil] at held
        exact absurd mark (clean c held)
      · exact begins

theorem recordOfLine_append_comment (line : List Char) {comment : List Char}
    (begins : ∀ c ∈ comment.head?, CommentMark c) :
    recordOfLine (line ++ comment) = recordOfLine line := by
  unfold recordOfLine
  rw [uncommented_append_of_comment (.inr begins)]

theorem not_commentMark_of_isBlank {c : Char} (blank : isBlank c = true) : ¬ CommentMark c := by
  rintro (rfl | rfl) <;> exact absurd blank (by decide)

theorem uncommented_append_of_clean {front : List Char} (clean : ∀ c ∈ front, ¬ CommentMark c)
    (back : List Char) : uncommented (front ++ back) = front ++ uncommented back := by
  refine List.takeWhile_append_of_pos fun c held => ?_
  simpa [← isCommentMark_iff] using clean c held

theorem tokens_uncommented_append {front back : List Char}
    (clean : ∀ c ∈ front, ¬ CommentMark c) (parted : Parted front back) :
    tokens (uncommented (front ++ back)) = tokens front ++ tokens (uncommented back) := by
  rw [uncommented_append_of_clean clean]
  apply Parted.tokens_append
  exact parted.narrow List.suffix_rfl (List.takeWhile_prefix _)

theorem recordOfLine_insert_blank {front back : List Char} {c : Char} (blank : isBlank c = true)
    (parted : Parted front back) :
    recordOfLine (front ++ c :: back) = recordOfLine (front ++ back) := by
  unfold recordOfLine
  by_cases comment : ∃ d ∈ front, CommentMark d
  · rw [uncommented_append_of_comment (.inl comment), uncommented_append_of_comment (.inl comment)]
  · have clean : ∀ d ∈ front, ¬ CommentMark d := fun d held mark => comment ⟨d, held, mark⟩
    have alone : ∀ d ∈ [c], ¬ CommentMark d := by simpa using not_commentMark_of_isBlank blank
    have kept : uncommented (c :: back) = c :: uncommented back :=
      uncommented_append_of_clean alone back
    have edge : Parted front (c :: back) := .inr (by simpa using blank)
    rw [tokens_uncommented_append clean edge, tokens_uncommented_append clean parted, kept,
      tokens_cons_blank _ blank]

/-- A line that declares nothing, for it holds only blanks and maybe a comment. -/
def Idle (line : List Char) : Prop :=
  ∃ blanks comment, line = blanks ++ comment ∧ (∀ c ∈ blanks, isBlank c = true) ∧
    ∀ c ∈ comment.head?, CommentMark c

theorem tokens_of_blanks {blanks : List Char} (all : ∀ c ∈ blanks, isBlank c = true) :
    tokens blanks = [] := by
  induction blanks with
  | nil => rfl
  | cons c blanks ih =>
    rw [List.forall_mem_cons] at all
    rw [tokens_cons_blank blanks all.1, ih all.2]

theorem Idle.recordOfLine_eq {line : List Char} (idle : Idle line) :
    recordOfLine line = .ok none := by
  obtain ⟨blanks, comment, rfl, all, begins⟩ := idle
  have clean : ∀ c ∈ blanks, ¬ CommentMark c :=
    fun c held => not_commentMark_of_isBlank (all c held)
  have content : uncommented blanks = blanks := by
    simpa using uncommented_append_of_clean clean []
  rw [recordOfLine_append_comment blanks begins, recordOfLine, content, tokens_of_blanks all]
  rfl

/-- A carriage return is a blank, so it does not matter whether it is a part of the line. -/
theorem recordOfLine_append_return (line : List Char) :
    recordOfLine (line ++ ['\r']) = recordOfLine line := by
  have inserted : recordOfLine (line ++ '\r' :: []) = recordOfLine (line ++ []) :=
    recordOfLine_insert_blank (by decide) (.inr (by simp))
  rwa [List.append_nil] at inserted

theorem recordOfLine_withoutReturn (line : List Char) :
    recordOfLine (withoutReturn line) = recordOfLine line := by
  unfold withoutReturn
  split
  · next last =>
    obtain ⟨front, rfl⟩ := List.getLast?_eq_some_iff.1 last
    rw [List.dropLast_concat, recordOfLine_append_return]
  · rfl

end Stepper.SymbolTable
