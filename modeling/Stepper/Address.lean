import Stepper.Text.Numeral

/-!
Addresses number the words of a memory. Addresses and words are both 32 bits wide. An address is
shown in hexadecimal and read in hexadecimal or decimal.
-/
namespace Stepper

abbrev Word := UInt32
abbrev Address := UInt32

namespace Address

def text (addr : Address) : String := Numeral.hexadecimal addr.toNat

/-- The address with this number, if it has 32 bits. -/
def ofNat? (n : Nat) : Option Address :=
  if h : n < UInt32.size then some (UInt32.ofNatLT n h) else none

/-- Reads decimal digits, or hexadecimal ones behind `0x` or `0X`. -/
def read? : List Char → Option Address
  | '0' :: 'x' :: rest => (Numeral.natural? 16 rest).bind ofNat?
  | '0' :: 'X' :: rest => (Numeral.natural? 16 rest).bind ofNat?
  | cs => (Numeral.natural? 10 cs).bind ofNat?

theorem ofNat?_eq_some_iff {n : Nat} {addr : Address} :
    ofNat? n = some addr ↔ addr.toNat = n := by
  unfold ofNat?
  split
  · next h =>
    rw [Option.some.injEq]
    constructor
    · rintro rfl; simp
    · rintro rfl; simp
  · next h =>
    have := addr.toNat_lt_size
    simp only [reduceCtorEq, false_iff]
    omega

@[simp] theorem ofNat?_toNat (addr : Address) : ofNat? addr.toNat = some addr :=
  ofNat?_eq_some_iff.2 rfl

end Address

/-- The addresses from `start` up to, and without, `stop`. -/
structure Extent where
  start : Address
  stop : Address
deriving DecidableEq

namespace Extent

def contains (extent : Extent) (addr : Address) : Bool :=
  extent.start ≤ addr && addr < extent.stop

theorem contains_iff {extent : Extent} {addr : Address} :
    extent.contains addr ↔ extent.start ≤ addr ∧ addr < extent.stop := by
  simp [contains]

end Extent
end Stepper
