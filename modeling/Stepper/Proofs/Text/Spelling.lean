import Mathlib.Data.Nat.Digits.Defs
import Mathlib.Tactic.IntervalCases
import Mathlib.Tactic.SplitIfs
import Mathlib.Tactic.Ring
import Stepper.Address

/-!
How numbers and addresses are spelled, given by the values of their digits. Reading a text yields a
value exactly if the text spells it.
-/
namespace Stepper

namespace Numeral

def IsDigit (base : Nat) (c : Char) (value : Nat) : Prop :=
  value < base ∧ (c = value.digitChar ∨ c = value.digitChar.toUpper)

/-- Digits, the highest first, with the number they are worth. -/
def Worth (base : Nat) (digits : List Char) (n : Nat) : Prop :=
  digits ≠ [] ∧
    ∃ values, List.Forall₂ (IsDigit base) digits values ∧ n = Nat.ofDigits base values.reverse

def Spells (base : Nat) (text : List Char) (n : Nat) : Prop :=
  ∃ digits, (text = digits ∨ text = '+' :: digits) ∧ Worth base digits n

theorem digit?_eq_some_iff {base value : Nat} {c : Char} (small : base ≤ 16) :
    digit? base c = some value ↔ IsDigit base c value := by
  have code : c = Char.ofNat c.toNat := (Char.ofNat_toNat c).symm
  unfold IsDigit
  constructor
  · intro read
    have below := digit?_lt read
    have range : value < 16 := Nat.lt_of_lt_of_le below small
    refine ⟨below, ?_⟩
    simp only [digit?, Option.ite_none_right_eq_some, Option.some.injEq] at read
    obtain ⟨-, worth⟩ := read
    have codes : c.toNat = value + 48 ∧ value < 10 ∨ c.toNat = value + 87 ∧ 10 ≤ value ∨
        c.toNat = value + 55 ∧ 10 ≤ value := by
      have order (a b : Char) : a ≤ b ↔ a.toNat ≤ b.toNat := Iff.rfl
      simp only [order, Char.reduceToNat] at worth
      split_ifs at worth <;> omega
    rcases codes with ⟨digit, named⟩ | ⟨digit, named⟩ | ⟨digit, named⟩
    all_goals
      rw [code, digit]
      interval_cases value <;> decide
  · rintro ⟨below, named⟩
    have range : value < 16 := Nat.lt_of_lt_of_le below small
    have worth : (if '0' ≤ c ∧ c ≤ '9' then c.toNat - '0'.toNat
        else if 'a' ≤ c ∧ c ≤ 'f' then c.toNat - 'a'.toNat + 10
        else if 'A' ≤ c ∧ c ≤ 'F' then c.toNat - 'A'.toNat + 10
        else base) = value := by
      interval_cases value <;> rcases named with rfl | rfl <;> rfl
    simp only [digit?]
    rw [worth, if_pos below]

theorem extend?_eq_some_iff {base high n : Nat} {cs : List Char} (small : base ≤ 16) :
    extend? base high cs = some n ↔ ∃ values, List.Forall₂ (IsDigit base) cs values ∧
      n = base ^ values.length * high + Nat.ofDigits base values.reverse := by
  induction cs generalizing high with
  | nil =>
    simp only [extend?, Option.some.injEq]
    constructor
    · rintro rfl
      exact ⟨[], .nil, by simp⟩
    · rintro ⟨_, ⟨⟩, rfl⟩
      simp
  | cons c rest ih =>
    -- A digit more moves those before it one place up.
    have shift (low : Nat) (values : List Nat) :
        base ^ values.length * (base * high + low) + Nat.ofDigits base values.reverse =
          base ^ (low :: values).length * high + Nat.ofDigits base (low :: values).reverse := by
      rw [List.reverse_cons, Nat.ofDigits_append, Nat.ofDigits_singleton, List.length_reverse,
        List.length_cons]
      ring
    simp only [extend?, Option.bind_eq_some_iff, digit?_eq_some_iff small, ih]
    constructor
    · rintro ⟨low, first, values, others, rfl⟩
      exact ⟨low :: values, .cons first others, shift low values⟩
    · rintro ⟨_, read, rfl⟩
      cases read with
      | cons first others => exact ⟨_, first, _, others, (shift _ _).symm⟩

theorem digits?_eq_some_iff {base n : Nat} {cs : List Char} (small : base ≤ 16) :
    digits? base cs = some n ↔ Worth base cs n := by
  cases cs with
  | nil => simp [Worth]
  | cons c rest => simp [Worth, extend?_eq_some_iff small]

theorem plus_not_worth {base n : Nat} {rest : List Char} (small : base ≤ 16) :
    ¬ Worth base ('+' :: rest) n := by
  rw [← digits?_eq_some_iff small]
  simp [extend?, digit?]

/-- A text has at most one sign, since the sign is no digit. -/
theorem natural?_eq_some_iff {base n : Nat} {text : List Char} (small : base ≤ 16) :
    natural? base text = some n ↔ Spells base text n := by
  unfold natural? Spells
  split
  · next rest =>
    rw [digits?_eq_some_iff small]
    constructor
    · intro worth
      exact ⟨rest, .inr rfl, worth⟩
    · rintro ⟨digits, rfl | same, worth⟩
      · exact absurd worth (plus_not_worth small)
      · cases same
        exact worth
  · next unsigned =>
    rw [digits?_eq_some_iff small]
    constructor
    · intro worth
      exact ⟨text, .inl rfl, worth⟩
    · rintro ⟨digits, rfl | rfl, worth⟩
      · exact worth
      · exact absurd rfl (unsigned digits)

/-! Numbers of 64 bits. -/

theorem le_of_extend? {base high n : Nat} {cs : List Char} (read : extend? base high cs = some n) :
    high ≤ n := by
  induction cs generalizing high with
  | nil => exact (Option.some.inj read).le
  | cons c rest ih =>
    obtain ⟨low, digit, further⟩ := Option.bind_eq_some_iff.1 read
    have positive : 0 < base := Nat.lt_of_le_of_lt (Nat.zero_le low) (digit?_lt digit)
    calc high ≤ base * high := Nat.le_mul_of_pos_left high positive
      _ ≤ base * high + low := Nat.le_add_right _ low
      _ ≤ n := ih further

/-- A number whose front is too large is too large itself. -/
theorem extendUInt64_eq {base n : Nat} {high : UInt64} {cs : List Char}
    (read : extend? base high.toNat cs = some n) : extendUInt64 base high cs =
      if fits : n < UInt64.size then .ok (.ofNatLT n fits) else .error .tooLarge := by
  induction cs generalizing high with
  | nil =>
    cases read
    rw [extendUInt64, dif_pos high.toNat_lt_size, UInt64.ofNatLT_toNat]
  | cons c rest ih =>
    obtain ⟨low, digit, further⟩ := Option.bind_eq_some_iff.1 read
    rw [extendUInt64, digit]
    dsimp only
    by_cases fits : base * high.toNat + low < UInt64.size
    · rw [dif_pos fits]
      apply ih
      rw [UInt64.toNat_ofNatLT]
      exact further
    · have larger := le_of_extend? further
      rw [dif_neg fits, dif_neg (by omega)]

theorem uint64_of_digits? {base n : Nat} {cs : List Char} (read : digits? base cs = some n) :
    uint64 base cs = (if fits : n < UInt64.size then .ok (.ofNatLT n fits) else .error .tooLarge) ∧
      uint64 base ('+' :: cs) = uint64 base cs := by
  cases cs with
  | nil => cases read
  | cons c rest =>
    have digit : c ≠ '+' := by
      rintro rfl
      simp [extend?, digit?] at read
    have extended : extendUInt64 base 0 (c :: rest) = _ := extendUInt64_eq read
    have unsigned : uint64 base (c :: rest) = extendUInt64 base 0 (c :: rest) := by
      unfold uint64
      split
      · next empty => cases empty
      · next sign => exact absurd (List.cons.inj sign).1 digit
      · next sign => exact absurd (List.cons.inj sign).1 digit
      · rfl
    exact ⟨unsigned.trans extended, unsigned.symm⟩

theorem uint64_minus (base : Nat) (cs : List Char) :
    uint64 base ('-' :: cs) = .error .invalidDigit := by
  have noDigit : digit? base '-' = none := by simp [digit?]
  rw [uint64, extendUInt64, noDigit]
  all_goals simp

end Numeral
namespace Address
open Numeral

/-- The number is that of an address, so it has 32 bits. -/
inductive Spells : List Char → Address → Prop where
  | decimal {text : List Char} {addr : Address} (number : Numeral.Spells 10 text addr.toNat) :
    Spells text addr
  | hexadecimal {x : Char} {text : List Char} {addr : Address} (mark : x = 'x' ∨ x = 'X')
    (number : Numeral.Spells 16 text addr.toNat) : Spells ('0' :: x :: text) addr

theorem bind_ofNat?_eq_some_iff {base : Nat} {text : List Char} {addr : Address}
    (small : base ≤ 16) :
    (natural? base text).bind ofNat? = some addr ↔ Numeral.Spells base text addr.toNat := by
  simp only [Option.bind_eq_some_iff, ofNat?_eq_some_iff, natural?_eq_some_iff small]
  constructor
  · rintro ⟨n, number, rfl⟩
    exact number
  · intro number
    exact ⟨_, number, rfl⟩

/-- Behind the mark of a hexadecimal numeral no decimal one could go on. -/
theorem not_decimal_of_mark {x : Char} {text : List Char} {n : Nat} (mark : x = 'x' ∨ x = 'X') :
    ¬ Numeral.Spells 10 ('0' :: x :: text) n := by
  rw [← natural?_eq_some_iff (by decide)]
  rcases mark with rfl | rfl <;> simp [natural?, extend?, digit?]

theorem read?_eq_some_iff {text : List Char} {addr : Address} :
    read? text = some addr ↔ Spells text addr := by
  unfold read?
  split
  · next rest =>
    rw [bind_ofNat?_eq_some_iff (by decide)]
    constructor
    · exact .hexadecimal (.inl rfl)
    · rintro (number | ⟨mark, number⟩)
      · exact absurd number (not_decimal_of_mark (.inl rfl))
      · exact number
  · next rest =>
    rw [bind_ofNat?_eq_some_iff (by decide)]
    constructor
    · exact .hexadecimal (.inr rfl)
    · rintro (number | ⟨mark, number⟩)
      · exact absurd number (not_decimal_of_mark (.inr rfl))
      · exact number
  · next lower upper =>
    rw [bind_ofNat?_eq_some_iff (by decide)]
    constructor
    · exact .decimal
    · rintro (number | ⟨rfl | rfl, number⟩)
      · exact number
      · exact absurd rfl (lower _)
      · exact absurd rfl (upper _)

theorem read?_eq_none_iff {text : List Char} :
    read? text = none ↔ ∀ addr, ¬ Spells text addr := by
  simp only [Option.eq_none_iff_forall_ne_some, ne_eq, read?_eq_some_iff]

end Address
end Stepper
