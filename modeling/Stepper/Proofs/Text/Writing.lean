import Stepper.Location
import Stepper.Proofs.Text.Spelling

/-!
Written numbers are spelled as reading expects it. A numeral is made of digits alone and these are
worth the number, so an address can be told from either of its texts.
-/
namespace Stepper

namespace Numeral

theorem extend?_toDigits {base : Nat} (large : 1 < base) (small : base ≤ 16) (n : Nat) :
    extend? base 0 (Nat.toDigits base n) = some n := by
  induction n using Nat.strongRecOn with
  | ind n ih =>
    have digit (value : Nat) (below : value < base) : digit? base value.digitChar = some value :=
      (digit?_eq_some_iff small).2 ⟨below, .inl rfl⟩
    rw [Nat.toDigits_eq_if large]
    split
    · next below => simp [extend?, digit n below]
    · next above =>
      -- The last digit comes off the end, and what is left is a smaller number.
      rw [extend?_append, ih (n / base) (Nat.div_lt_self (by omega) large)]
      simp [extend?, digit (n % base) (Nat.mod_lt n (by omega)), Nat.div_add_mod]

theorem worth_toDigits {base : Nat} (large : 1 < base) (small : base ≤ 16) (n : Nat) :
    Worth base (Nat.toDigits base n) n := by
  rw [← digits?_eq_some_iff small]
  cases written : Nat.toDigits base n with
  | nil => exact absurd written Nat.toDigits_ne_nil
  | cons c rest =>
    rw [digits?_cons, ← written]
    exact extend?_toDigits large small n

theorem exists_isDigit_of_mem_toDigits {base n : Nat} {c : Char} (large : 1 < base)
    (written : c ∈ Nat.toDigits base n) : ∃ value, IsDigit base c value := by
  induction n using Nat.strongRecOn with
  | ind n ih =>
    rw [Nat.toDigits_eq_if large] at written
    split at written
    · next below => exact ⟨n, below, .inl (List.mem_singleton.1 written)⟩
    · next above =>
      rcases List.mem_append.1 written with front | last
      · exact ih (n / base) (Nat.div_lt_self (by omega) large) front
      · exact ⟨n % base, Nat.mod_lt n (by omega), .inl (List.mem_singleton.1 last)⟩

end Numeral

namespace Address

/-- The two ways to write an address. -/
inductive Style where
  | hexadecimal
  | decimal
deriving DecidableEq

/-- The text of an address, in hexadecimal as locations show it. -/
def written (addr : Address) : Style → String
  | .hexadecimal => (Location.address addr).text
  | .decimal => Numeral.decimal addr.toNat

theorem toList_written_hexadecimal (addr : Address) :
    (addr.written .hexadecimal).toList = '0' :: 'x' :: Nat.toDigits 16 addr.toNat := by
  simp [written, Location.text, text, Numeral.hexadecimal]

theorem toList_written_decimal (addr : Address) :
    (addr.written .decimal).toList = Nat.toDigits 10 addr.toNat := by
  simp [written, Numeral.decimal]

theorem spells_written (addr : Address) (style : Style) :
    Spells (addr.written style).toList addr := by
  cases style with
  | hexadecimal =>
    rw [toList_written_hexadecimal]
    exact .hexadecimal (.inl rfl)
      ⟨_, .inl rfl, Numeral.worth_toDigits (by decide) (by decide) addr.toNat⟩
  | decimal =>
    rw [toList_written_decimal]
    exact .decimal ⟨_, .inl rfl, Numeral.worth_toDigits (by decide) (by decide) addr.toNat⟩

theorem Spells.ne_nil {text : List Char} {addr : Address} (spelled : Spells text addr) :
    text ≠ [] := by
  cases spelled with
  | decimal number =>
    obtain ⟨digits, rfl | rfl, worth⟩ := number
    · exact worth.1
    · exact List.cons_ne_nil _ _
  | hexadecimal => exact List.cons_ne_nil _ _

end Address
end Stepper
