import Stepper.Proofs.Config.Acceptance
import Stepper.Proofs.Kdl.Line

/-!
Step limits as text. Each limit can be written in every base, and however it is written it is read
back as it is. A number that is too large and one with a minus sign are refused for this alone.
-/
namespace Stepper.Config
open Kdl (Converts Finds Spells ValueFinds)

variable {library : Kdl.Library} {literal : List Char} {integer : Kdl.Integer} {n : UInt64}
  {fault : Kdl.Detail} {ending : String}

/-- The line that states a limit with this literal. -/
def limitLine (literal : List Char) (ending : String) : String :=
  "run-step-limit " ++ String.ofList literal ++ ending

/-- The node that states a limit. -/
def statement (integer : Kdl.Integer) : Kdl.Node :=
  .single "run-step-limit" ⟨none, .integer integer⟩

theorem bareName_runStepLimit : Kdl.BareName "run-step-limit".toList where
  start := by
    have parts : ∀ c ∈ "un-step-limit".toList, Kdl.isNamePart c = true :=
      List.all_iff_forall_prop.1 (by decide)
    exact ⟨'r', "un-step-limit".toList, rfl, by decide, by decide, by decide, parts⟩
  noKeyword := by decide

theorem limitLine_eq (literal : List Char) (ending : String) : limitLine literal ending =
    String.ofList ("run-step-limit".toList ++ [' '] ++ literal ++ ending.toList) := by
  unfold limitLine
  rw [String.ofList_append, String.ofList_append, String.ofList_toList]
  rfl

theorem read?_limitLine (reads : library.ReadsLines) (spells : Spells literal integer)
    (ends : ending = "" ∨ ending = "\n") :
    library.read? (limitLine literal ending) = some [statement integer] := by
  have blank : Kdl.Blanks [' '] := ⟨List.cons_ne_nil _ _, List.forall_mem_singleton.2 rfl⟩
  have terminates : Kdl.Terminates ending.toList := by
    rcases ends with rfl | rfl
    · exact .text
    · exact .newline rfl
  rw [limitLine_eq, reads bareName_runStepLimit blank spells terminates]
  rfl

theorem states_statement (unsigned : integer.sign ≠ .minus)
    (worth : integer.magnitude = n.toNat) : States [statement integer] n :=
  .limit (.inl rfl) unsigned worth

/-- The fault of the number is the only one. -/
theorem finds_statement {mistake : Numeral.Mistake}
    (refused : Numeral.uint64 integer.base.toNat integer.text = .error mistake) :
    Finds stepLimit false [statement integer] [.badNumber mistake] := by
  have converts := Converts.integer integer
  rw [refused] at converts
  have value : ValueFinds ⟨none, .integer integer⟩ ([] ++ [.badNumber mistake]) :=
    .refused .absent converts
  exact .stated rfl (.children rfl rfl value) .nothing

section Line

variable (reads : library.ReadsLines) (decodes : library.Decodes) (spells : Spells literal integer)
  (ends : ending = "" ∨ ending = "\n")

include reads decodes spells ends

theorem ofText_limitLine_of_states (states : States [statement integer] n) :
    ofText library (limitLine literal ending) = .ok ⟨n⟩ := by
  rw [ofText_of_document (read?_limitLine reads spells ends), states.ofDocument_eq decodes]
  rfl

theorem ofText_limitLine_of_refused {mistake : Numeral.Mistake}
    (refused : Numeral.uint64 integer.base.toNat integer.text = .error mistake) :
    ofText library (limitLine literal ending) = .error (.invalid [mistake.message]) := by
  rw [ofText_of_document (read?_limitLine reads spells ends),
    ofDocument_of_finds decodes (finds_statement refused) (List.cons_ne_nil _ _)]
  rfl

end Line

theorem exists_spells {text : List Char} {base : Kdl.Base} {n : Nat}
    (magnitude : Kdl.Magnitude text base (Nat.toDigits base.toNat n)) :
    ∃ integer, Spells text integer ∧ integer.sign = .none ∧ integer.magnitude = n := by
  have worth : Numeral.digits? base.toNat (Nat.toDigits base.toNat n) = some n :=
    (Numeral.digits?_eq_some_iff base.toNat_le).2
      (Numeral.worth_toDigits base.one_lt_toNat base.toNat_le n)
  exact ⟨_, .signed ⟨.none, base, Nat.toDigits base.toNat n, n, worth⟩ magnitude, rfl, rfl⟩

/-- The last part says that there are literals of each number, in every base. -/
theorem every_limit_can_be_written (library : Kdl.Library) (reads : library.ReadsLines)
    (decodes : library.Decodes) :
    (∀ literal ending integer, (ending = "" ∨ ending = "\n") → Spells literal integer →
      (integer.sign ≠ .minus →
        (∀ limit : UInt64, integer.magnitude = limit.toNat →
          ofText library (limitLine literal ending) = .ok ⟨limit⟩) ∧
        (2 ^ 64 ≤ integer.magnitude → ofText library (limitLine literal ending) =
          .error (.invalid ["number too large to fit in target type"]))) ∧
      (integer.sign = .minus → ofText library (limitLine literal ending) =
        .error (.invalid ["invalid digit found in string"]))) ∧
    ∀ n, (∃ integer, Spells (Nat.toDigits 10 n) integer ∧ integer.sign = .none ∧
        integer.magnitude = n) ∧
      ∀ mark base, Kdl.Mark mark base →
        ∃ integer, Spells ('0' :: mark :: Nat.toDigits base.toNat n) integer ∧
          integer.sign = .none ∧ integer.magnitude = n := by
  refine ⟨fun literal ending integer ends spells => ⟨fun unsigned => ⟨?_, fun large => ?_⟩,
    fun signed => ?_⟩, fun n => ⟨?_, fun mark base marks => ?_⟩⟩
  · intro limit worth
    exact ofText_limitLine_of_states reads decodes spells ends (states_statement unsigned worth)
  · have refused : Numeral.uint64 integer.base.toNat integer.text = .error .tooLarge :=
      (uint64_text_of_unsigned unsigned).trans (dif_neg (Nat.not_lt.2 large))
    exact ofText_limitLine_of_refused reads decodes spells ends refused
  · have refused := uint64_text_of_minus signed
    exact ofText_limitLine_of_refused reads decodes spells ends refused
  · exact exists_spells (.decimal (Kdl.gapped_toDigits (by decide) n))
  · exact exists_spells (.marked marks (Kdl.gapped_toDigits base.one_lt_toNat n))

/-- A sign, a mark, a leading zero, a gap and a capital letter; the least number that is too large;
and a zero below zero. -/
theorem padded_limit_is_read :
    Kdl.library.ReadsLines ∧ Kdl.library.Decodes ∧
      ofText Kdl.library "run-step-limit +0x0_2A\n" = .ok ⟨42⟩ ∧
      ofText Kdl.library (limitLine (Nat.toDigits 10 (2 ^ 64)) "") =
        .error (.invalid ["number too large to fit in target type"]) ∧
      ofText Kdl.library "run-step-limit -0" =
        .error (.invalid ["invalid digit found in string"]) := by
  obtain ⟨lines, written⟩ :=
    every_limit_can_be_written Kdl.library Kdl.library_readsLines Kdl.library_decodes
  have two : Numeral.IsDigit 16 '2' 2 := ⟨by decide, .inl rfl⟩
  have ten : Numeral.IsDigit 16 'A' 10 := ⟨by decide, .inr rfl⟩
  have zero (base : Nat) (positive : 0 < base) : Kdl.Gapped base ['0'] ['0'] :=
    .first ⟨positive, .inl rfl⟩
  have digits : Kdl.Gapped 16 ['0', '_', '2', 'A'] ['0', '2', 'A'] :=
    ((zero 16 (by decide)).gap.digit two).digit ten
  have padded := Spells.signed ⟨.plus, .hexadecimal, ['0', '2', 'A'], 42, rfl⟩
    (.marked .hexadecimal digits)
  have minus := Spells.signed ⟨.minus, .decimal, ['0'], 0, rfl⟩ (.decimal (zero 10 (by decide)))
  obtain ⟨large, spelled, unsigned, worth⟩ := (written (2 ^ 64)).1
  refine ⟨Kdl.library_readsLines, Kdl.library_decodes, ?_, ?_, ?_⟩
  · exact ((lines _ _ _ (.inr rfl) padded).1 Kdl.Sign.noConfusion).1 42 rfl
  · exact ((lines _ _ _ (.inl rfl) spelled).1 (unsigned ▸ Kdl.Sign.noConfusion)).2 worth.ge
  · exact (lines _ _ _ (.inl rfl) minus).2 rfl

end Stepper.Config
