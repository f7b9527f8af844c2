import Mathlib.Tactic.IntervalCases
import Stepper.Kdl.NumberLiteral
import Stepper.Proofs.Kdl.Conventions
import Stepper.Proofs.Text.Writing

/-!
How an integer is read. Gaps may stand anywhere behind the first digit and are left out; a mark
tells the base, and a sign stands in front of all. An integer is read up to what would also end a
name, which is neither a part of it nor makes it another kind of number.
-/
namespace Stepper.Kdl
open Numeral (IsDigit)

/-- Nothing stands here, or something that a name could not go on with. -/
def Closes (rest : List Char) : Prop := ∀ c ∈ rest.head?, endsName c = true

variable {base : Base} {sign : Sign} {integer : Integer} {value : Nat} {c mark : Char}
  {cs digits rest : List Char}

/-! Digits. -/

theorem Base.toNat_le (base : Base) : base.toNat ≤ 16 := by
  cases base <;> decide

theorem Base.one_lt_toNat (base : Base) : 1 < base.toNat := by
  cases base <;> decide

theorem isDigitOrGap_of_isDigit (digit : IsDigit base.toNat c value) :
    isDigitOrGap base c = true := by
  unfold isDigitOrGap
  rw [(Numeral.digit?_eq_some_iff base.toNat_le).2 digit, Option.isSome_some, Bool.or_true]

theorem ne_gap_of_isDigit (digit : IsDigit base.toNat c value) : c ≠ '_' := by
  rintro rfl
  have read := (Numeral.digit?_eq_some_iff base.toNat_le).2 digit
  simp [Numeral.digit?] at read

theorem Gapped.isDigitOrGap (gapped : Gapped base.toNat cs digits) :
    ∀ c ∈ cs, isDigitOrGap base c = true := by
  induction gapped with
  | first digit =>
    rw [List.forall_mem_singleton]
    exact isDigitOrGap_of_isDigit digit
  | digit _ digit ih =>
    rw [List.forall_mem_append, List.forall_mem_singleton]
    exact ⟨ih, isDigitOrGap_of_isDigit digit⟩
  | gap _ ih =>
    rw [List.forall_mem_append, List.forall_mem_singleton]
    exact ⟨ih, rfl⟩

theorem Gapped.exists_first {base : Nat} (gapped : Gapped base cs digits) :
    ∃ first tail value, cs = first :: tail ∧ IsDigit base first value := by
  induction gapped with
  | first digit => exact ⟨_, _, _, rfl, digit⟩
  | digit _ _ ih | gap _ ih =>
    obtain ⟨first, tail, value, rfl, begins⟩ := ih
    exact ⟨first, _, value, rfl, begins⟩

theorem Gapped.filter_eq (gapped : Gapped base.toNat cs digits) :
    cs.filter (· ≠ '_') = digits := by
  induction gapped with
  | first digit => simp [ne_gap_of_isDigit digit]
  | digit _ digit ih =>
    rw [List.filter_append, ih]
    simp [ne_gap_of_isDigit digit]
  | gap _ ih =>
    rw [List.filter_append, ih]
    simp

theorem gapped_toDigits {base : Nat} (large : 1 < base) (n : Nat) :
    Gapped base (Nat.toDigits base n) (Nat.toDigits base n) := by
  induction n using Nat.strongRecOn with
  | ind n ih =>
    rw [Nat.toDigits_eq_if large]
    split
    · next below => exact .first ⟨below, .inl rfl⟩
    · next above =>
      have front := ih (n / base) (Nat.div_lt_self (by omega) large)
      exact front.digit ⟨Nat.mod_lt n (by omega), .inl rfl⟩

/-! What may follow. -/

theorem isDigitOrGap_of_endsName (ends : endsName c = true) : isDigitOrGap base c = false := by
  rw [← Bool.not_eq_true]
  unfold isDigitOrGap
  rw [Bool.or_eq_true, Option.isSome_iff_exists]
  rintro (gap | ⟨value, read⟩)
  · rw [beq_iff_eq] at gap
    subst gap
    revert ends
    decide
  · obtain ⟨below, named⟩ := (Numeral.digit?_eq_some_iff base.toNat_le).1 read
    have range : value < 16 := Nat.lt_of_lt_of_le below base.toNat_le
    revert ends
    interval_cases value <;> rcases named with rfl | rfl <;> decide

theorem skipFraction_of_closes (closes : Closes rest) : skipFraction rest = none := by
  unfold skipFraction
  split
  · exact absurd (closes '.' rfl) (by decide)
  · rfl

theorem skipExponent_of_closes (closes : Closes rest) : skipExponent rest = none := by
  unfold skipExponent
  split
  · next c rest =>
    apply if_neg
    rintro (rfl | rfl)
    · exact absurd (closes 'e' rfl) (by decide)
    · exact absurd (closes 'E' rfl) (by decide)
  · rfl

theorem baseOfMark_eq_none (other : isDigitOrGap .decimal mark = true ∨ endsName mark = true) :
    baseOfMark mark = none := by
  revert other
  unfold baseOfMark
  split
  · decide
  · decide
  · decide
  · exact fun _ => rfl

/-! Reading. -/

theorem Integer.ofDigits?_digits (integer : Integer) :
    ofDigits? integer.sign integer.base integer.digits = some integer := by
  unfold ofDigits?
  split
  · next magnitude worth =>
    have same : magnitude = integer.magnitude := Option.some.inj (worth.symm.trans integer.worth)
    subst same
    rfl
  · next missing => exact absurd (missing.symm.trans integer.worth) (Option.some_ne_none _).symm

theorem readDigits_append (integer : Integer)
    (gapped : Gapped integer.base.toNat cs integer.digits) (closes : Closes rest) :
    readDigits integer.sign integer.base (cs ++ rest) = some (integer, rest) := by
  have inside := gapped.isDigitOrGap
  have outside : ∀ c ∈ rest.head?, isDigitOrGap integer.base c = false :=
    fun c first => isDigitOrGap_of_endsName (closes c first)
  have taken : (cs ++ rest).takeWhile (isDigitOrGap integer.base) = cs := by
    rw [List.takeWhile_append_of_pos inside]
    cases rest with
    | nil => simp
    | cons c rest => simp [outside c rfl]
  have left : (cs ++ rest).dropWhile (isDigitOrGap integer.base) = rest := by
    rw [List.dropWhile_append_of_pos inside]
    cases rest with
    | nil => simp
    | cons c rest => simp [outside c rfl]
  unfold readDigits
  rw [taken, left, gapped.filter_eq, integer.ofDigits?_digits]
  obtain ⟨first, tail, value, rfl, begins⟩ := gapped.exists_first
  exact if_neg (ne_gap_of_isDigit begins)

/-- Behind the first digit of a decimal number there is no mark. -/
theorem readMarked_of_decimal (gapped : Gapped (Base.toNat .decimal) cs digits)
    (closes : Closes rest) : readMarked sign (cs ++ rest) = none := by
  have inside := gapped.isDigitOrGap
  obtain ⟨first, tail, value, rfl, begins⟩ := gapped.exists_first
  unfold readMarked
  split
  · next mark behind split =>
    have other : isDigitOrGap .decimal mark = true ∨ endsName mark = true := by
      rw [List.cons_append, List.cons.injEq] at split
      cases tail with
      | nil => exact .inr (closes mark (by rw [← List.nil_append rest, split.2]; rfl))
      | cons second tail =>
        rw [List.cons_append, List.cons.injEq] at split
        exact .inl (inside mark (by simp [split.2.1]))
    rw [baseOfMark_eq_none other, Option.bind_none]
  · rfl

theorem Mark.baseOfMark_eq (marks : Mark mark base) : baseOfMark mark = some base := by
  cases marks <;> rfl

theorem readNumber_of_sign {text : List Char} (signed : readSign text = (integer.sign, cs ++ rest))
    (magnitude : Magnitude cs integer.base integer.digits) (closes : Closes rest) :
    readNumber text = some (.integer integer, rest) := by
  obtain ⟨sign, base, digits, n, worth⟩ := integer
  unfold readNumber
  rw [signed]
  dsimp only at magnitude ⊢
  cases magnitude with
  | decimal gapped =>
    have read := readDigits_append ⟨sign, .decimal, digits, n, worth⟩ gapped closes
    rw [readMarked_of_decimal gapped closes, read]
    simp [skipMaybe, skipFraction_of_closes closes, skipExponent_of_closes closes]
  | marked marks gapped =>
    have read := readDigits_append ⟨sign, base, digits, n, worth⟩ gapped closes
    simp [readMarked, marks.baseOfMark_eq, read]

def decimalDigits : List Char := "0123456789".toList

/-- What the text of an integer begins with. -/
def numberStarts : List Char := '+' :: '-' :: decimalDigits

theorem mem_decimalDigits_of_isDigit (digit : IsDigit 10 c value) : c ∈ decimalDigits := by
  obtain ⟨below, named⟩ := digit
  interval_cases value <;> rcases named with rfl | rfl <;> decide

theorem Magnitude.exists_first (magnitude : Magnitude cs base digits) :
    ∃ first tail, cs = first :: tail ∧ first ∈ decimalDigits := by
  cases magnitude with
  | decimal gapped =>
    obtain ⟨first, tail, value, rfl, begins⟩ := gapped.exists_first
    exact ⟨first, tail, rfl, mem_decimalDigits_of_isDigit begins⟩
  | marked => exact ⟨_, _, rfl, by decide⟩

theorem Spells.exists_first (spells : Spells cs integer) :
    ∃ first tail, cs = first :: tail ∧ first ∈ numberStarts := by
  obtain ⟨_, magnitude⟩ := spells
  match integer.sign with
  | .none =>
    obtain ⟨first, tail, rfl, digit⟩ := magnitude.exists_first
    exact ⟨first, tail, rfl, List.mem_cons_of_mem _ (List.mem_cons_of_mem _ digit)⟩
  | .plus => exact ⟨_, _, rfl, by decide⟩
  | .minus => exact ⟨_, _, rfl, by decide⟩

theorem readSign_of_digit (digit : c ∈ decimalDigits) : readSign (c :: cs) = (.none, c :: cs) := by
  unfold readSign
  split
  · next minus =>
    rw [(List.cons.inj minus).1] at digit
    exact absurd digit (by decide)
  · next plus =>
    rw [(List.cons.inj plus).1] at digit
    exact absurd digit (by decide)
  · rfl

theorem readNumber_append (spells : Spells cs integer) (closes : Closes rest) :
    readNumber (cs ++ rest) = some (.integer integer, rest) := by
  cases spells with
  | @signed behind _ magnitude =>
    have signed : readSign (integer.sign.text ++ behind ++ rest) =
        (integer.sign, behind ++ rest) := by
      match integer.sign with
      | .none =>
        obtain ⟨first, tail, rfl, digit⟩ := magnitude.exists_first
        exact readSign_of_digit digit
      | .plus => rfl
      | .minus => rfl
    exact readNumber_of_sign signed magnitude closes

end Stepper.Kdl
