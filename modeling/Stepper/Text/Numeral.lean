/-!
Numerals in bases up to sixteen. Digits are read left to right and letters count in either case;
written numerals have lower-case letters and no leading zero. A number of 64 bits is refused at the
first character that it cannot go on with.
-/
namespace Stepper.Numeral

/-- The value of a digit, if it is one in this base. -/
def digit? (base : Nat) (c : Char) : Option Nat :=
  let value :=
    if '0' ≤ c ∧ c ≤ '9' then c.toNat - '0'.toNat
    else if 'a' ≤ c ∧ c ≤ 'f' then c.toNat - 'a'.toNat + 10
    else if 'A' ≤ c ∧ c ≤ 'F' then c.toNat - 'A'.toNat + 10
    else base
  if value < base then some value else none

/-- Continues a numeral whose digits so far are worth `high`. -/
def extend? (base high : Nat) : List Char → Option Nat
  | [] => some high
  | c :: rest => (digit? base c).bind fun low => extend? base (base * high + low) rest

/-- The value of one or more digits. -/
def digits? (base : Nat) : List Char → Option Nat
  | [] => none
  | c :: rest => extend? base 0 (c :: rest)

/-- A natural number, for which one leading plus sign is admitted and a minus sign is not. -/
def natural? (base : Nat) : List Char → Option Nat
  | '+' :: rest => digits? base rest
  | cs => digits? base cs

/-- Why a text is no number of 64 bits. -/
inductive Mistake where
  | empty
  | invalidDigit
  | tooLarge
deriving DecidableEq

def Mistake.message : Mistake → String
  | .empty => "cannot parse integer from empty string"
  | .invalidDigit => "invalid digit found in string"
  | .tooLarge => "number too large to fit in target type"

/-- Continues a number of 64 bits whose digits so far are worth `high`. -/
def extendUInt64 (base : Nat) (high : UInt64) : List Char → Except Mistake UInt64
  | [] => .ok high
  | c :: rest =>
    match digit? base c with
    | none => .error .invalidDigit
    | some low =>
      if fits : base * high.toNat + low < UInt64.size then
        extendUInt64 base (.ofNatLT (base * high.toNat + low) fits) rest
      else .error .tooLarge

/-- A number of 64 bits, for which one leading plus sign is admitted. A minus sign is no digit. -/
def uint64 (base : Nat) : List Char → Except Mistake UInt64
  | [] => .error .empty
  | ['+'] => .error .invalidDigit
  | '+' :: rest => extendUInt64 base 0 rest
  | cs => extendUInt64 base 0 cs

theorem digit?_lt {base value : Nat} {c : Char} (h : digit? base c = some value) :
    value < base := by
  simp only [digit?, Option.ite_none_right_eq_some, Option.some.injEq] at h
  omega

@[simp] theorem digits?_nil (base : Nat) : digits? base [] = none := rfl

@[simp] theorem digits?_cons (base : Nat) (c : Char) (rest : List Char) :
    digits? base (c :: rest) = extend? base 0 (c :: rest) := rfl

theorem extend?_append (base high : Nat) (front back : List Char) :
    extend? base high (front ++ back) =
      (extend? base high front).bind fun value => extend? base value back := by
  induction front generalizing high with
  | nil => rfl
  | cons c rest ih => simp [extend?, ih, Option.bind_assoc]

def decimal (n : Nat) : String := String.ofList (Nat.toDigits 10 n)

def hexadecimal (n : Nat) : String := String.ofList ('0' :: 'x' :: Nat.toDigits 16 n)

end Stepper.Numeral
