import Stepper.Config
import Stepper.Proofs.Kdl.Decoding

/-!
Which documents are settings. A library that keeps to the conventions goes through a document and
collects what is wrong with it; said without that, a document has to be empty or to state one limit
and nothing else. Whatever else it says is answered with a fault, and the standard settings never
take its place.
-/
namespace Stepper.Config
open Kdl (AnnotationFinds Converts Finds ValueFinds Yields)

/-- The step limit that a document stands for. -/
inductive States : Kdl.Document → UInt64 → Prop where
  | nothing : States [] 1000000
  | limit {nodeType typeName : Option String} {integer : Kdl.Integer} {limit : UInt64}
    (typed : typeName = none ∨ typeName = some "u64") (unsigned : integer.sign ≠ .minus)
    (worth : integer.magnitude = limit.toNat) :
    States
      [{ annotation := nodeType
         name := "run-step-limit"
         arguments := [⟨typeName, .integer integer⟩]
         properties := []
         children := [] }]
      limit

variable {document : Kdl.Document} {value : Kdl.Value} {literal : Kdl.Literal}
  {integer : Kdl.Integer} {n : UInt64}

/-! Values. -/

theorem uint64_text_of_minus (signed : integer.sign = .minus) :
    Numeral.uint64 integer.base.toNat integer.text = .error .invalidDigit := by
  rw [Kdl.Integer.text, signed]
  exact Numeral.uint64_minus _ _

theorem uint64_text_of_unsigned (unsigned : integer.sign ≠ .minus) :
    Numeral.uint64 integer.base.toNat integer.text =
      if fits : integer.magnitude < UInt64.size then .ok (.ofNatLT integer.magnitude fits)
      else .error .tooLarge := by
  obtain ⟨digits, plus⟩ := Numeral.uint64_of_digits? integer.worth
  unfold Kdl.Integer.text
  cases sign : integer.sign with
  | none => exact digits
  | plus => exact plus.trans digits
  | minus => exact absurd sign unsigned

theorem uint64_text_eq_ok_iff : Numeral.uint64 integer.base.toNat integer.text = .ok n ↔
    integer.sign ≠ .minus ∧ integer.magnitude = n.toNat := by
  by_cases signed : integer.sign = .minus
  · simp [uint64_text_of_minus signed, signed]
  · rw [uint64_text_of_unsigned signed]
    by_cases fits : integer.magnitude < UInt64.size
    · simp [fits, signed, ← UInt64.toNat_inj]
    · have := n.toNat_lt_size
      simp only [fits, signed, dite_false, reduceCtorEq, ne_eq, not_false_eq_true, true_and,
        false_iff]
      omega

theorem converts_ok_iff : Converts literal (.ok n) ↔
    ∃ integer, literal = .integer integer ∧ integer.sign ≠ .minus ∧
      integer.magnitude = n.toNat := by
  constructor
  · intro converts
    generalize converted : Except.ok n = result at converts
    cases converts with
    | integer integer =>
      refine ⟨integer, rfl, uint64_text_eq_ok_iff.1 ?_⟩
      cases read : Numeral.uint64 integer.base.toNat integer.text with
      | ok m =>
        rw [read] at converted
        cases converted
        rfl
      | error mistake =>
        rw [read] at converted
        cases converted
    | other => cases converted
  · rintro ⟨integer, rfl, fits⟩
    have converts := Converts.integer integer
    rw [uint64_text_eq_ok_iff.2 fits] at converts
    exact converts

theorem annotationFinds_nil_iff {typeName : Option String} :
    AnnotationFinds typeName [] ↔ typeName = none ∨ typeName = some "u64" := by
  constructor
  · intro finds
    cases finds with
    | absent => exact .inl rfl
    | right => exact .inr rfl
  · rintro (rfl | rfl)
    · exact .absent
    · exact .right

theorem valueFinds_nil_iff : ValueFinds value [] ↔
    (Kdl.Value.annotation value = none ∨ Kdl.Value.annotation value = some "u64") ∧
      ∃ n, Converts value.literal (.ok n) := by
  rw [← annotationFinds_nil_iff]
  constructor
  · intro finds
    generalize clean : ([] : List Kdl.Detail) = details at finds
    cases finds with
    | @converted _ n typed converts => exact ⟨clean ▸ typed, n, converts⟩
    | refused =>
      exact absurd clean.symm (List.append_ne_nil_of_right_ne_nil _ (List.cons_ne_nil _ _))
  · rintro ⟨typed, n, converts⟩
    exact .converted typed converts

/-! Documents. -/

theorem States.finds (states : States document n) :
    Finds stepLimit false document [] ∧ Yields stepLimit document n := by
  cases states with
  | nothing => exact ⟨.nothing, .standard (fun _ held => absurd held List.not_mem_nil)⟩
  | @limit _ typeName integer n typed unsigned worth =>
    have converts : Converts (.integer integer) (.ok n) :=
      converts_ok_iff.2 ⟨integer, rfl, unsigned, worth⟩
    have value : ValueFinds ⟨typeName, .integer integer⟩ [] :=
      valueFinds_nil_iff.2 ⟨typed, n, converts⟩
    exact ⟨.stated rfl (.children rfl rfl value) .nothing,
      .stated (List.mem_singleton_self _) rfl rfl converts⟩

theorem exists_states_of_finds (finds : Finds stepLimit false document []) :
    ∃ n, States document n := by
  rcases finds.of_clean with rfl | ⟨node, value, once⟩
  · exact ⟨_, .nothing⟩
  · obtain ⟨rfl, named, argued, bare, childless, fine⟩ := once
    obtain ⟨typed, n, converts⟩ := valueFinds_nil_iff.1 fine
    obtain ⟨nodeType, name, arguments, properties, children⟩ := node
    obtain ⟨typeName, literal⟩ := value
    obtain ⟨integer, rfl, unsigned, worth⟩ := converts_ok_iff.1 converts
    subst named argued bare childless
    exact ⟨n, .limit typed unsigned worth⟩

theorem States.exists_literal (states : States document n) (spoken : document ≠ []) :
    ∃ node value integer, document = [node] ∧ node.arguments = [value] ∧
      value.literal = .integer integer ∧ integer.magnitude = n.toNat := by
  cases states with
  | nothing => exact absurd rfl spoken
  | limit _ _ worth => exact ⟨_, _, _, rfl, rfl, rfl, worth⟩

section Decoding

variable {library : Kdl.Library} (decodes : library.Decodes)

include decodes

theorem States.ofDocument_eq (states : States document n) :
    ofDocument library document = .ok ⟨n⟩ := by
  obtain ⟨finds, yields⟩ := states.finds
  rw [ofDocument, decodes.accepts finds yields]
  rfl

theorem ofDocument_of_finds {details : List Kdl.Detail}
    (finds : Finds stepLimit false document details) (faulty : details ≠ []) :
    ofDocument library document = .error (details.map Kdl.Detail.message) := by
  rw [ofDocument, decodes.refuses finds faulty]
  rfl

theorem states_or_faulty (document : Kdl.Document) :
    (∃ n, States document n ∧ ofDocument library document = .ok ⟨n⟩) ∨
      (∀ n, ¬ States document n) ∧
        ∃ details, details ≠ [] ∧ ofDocument library document = .error details := by
  by_cases stated : ∃ n, States document n
  · obtain ⟨n, states⟩ := stated
    exact .inl ⟨n, states, states.ofDocument_eq decodes⟩
  · obtain ⟨details, finds⟩ := Kdl.exists_finds stepLimit false document
    have faulty : details ≠ [] := by
      rintro rfl
      exact stated (exists_states_of_finds finds)
    refine .inr ⟨not_exists.1 stated, _, ?_, ofDocument_of_finds decodes finds faulty⟩
    rwa [Ne, List.map_eq_nil_iff]

theorem ofDocument_eq_ok_iff {config : Config} :
    ofDocument library document = .ok config ↔ States document config.runStepLimit := by
  refine ⟨fun accepted => ?_, States.ofDocument_eq decodes⟩
  rcases states_or_faulty decodes document with ⟨n, states, answer⟩ | ⟨-, details, -, answer⟩
  · cases accepted.symm.trans answer
    exact states
  · cases accepted.symm.trans answer

theorem exists_details_iff :
    (∃ details, details ≠ [] ∧ ofDocument library document = .error details) ↔
      ∀ n, ¬ States document n := by
  rcases states_or_faulty decodes document with ⟨n, states, answer⟩ | ⟨unstated, faulty⟩
  · constructor
    · rintro ⟨details, -, refused⟩
      cases refused.symm.trans answer
    · intro unstated
      exact absurd states (unstated n)
  · exact iff_of_true faulty unstated

end Decoding

variable {library : Kdl.Library} {text : String}

theorem ofText_of_document (read : library.read? text = some document) :
    ofText library text = (ofDocument library document).mapError .invalid := by
  unfold ofText
  rw [read]

theorem ofText_eq_notKdl_iff :
    ofText library text = .error .notKdl ↔ library.read? text = none := by
  unfold ofText
  cases library.read? text with
  | none => exact iff_of_true rfl rfl
  | some document =>
    dsimp only
    cases ofDocument library document <;> simp [Except.mapError]

theorem ofText_eq_ok_iff_of_document {config : Config} (read : library.read? text = some document) :
    ofText library text = .ok config ↔ ofDocument library document = .ok config := by
  rw [ofText_of_document read]
  cases ofDocument library document <;> simp [Except.mapError]

theorem ofText_eq_invalid_iff {details : List String} (read : library.read? text = some document) :
    ofText library text = .error (.invalid details) ↔
      ofDocument library document = .error details := by
  rw [ofText_of_document read]
  cases ofDocument library document <;> simp [Except.mapError]

/-- First as it is with documents and then as it is with texts. The last part says that the standard
settings stand for silence only: a limit that is accepted is the one that is written. -/
theorem accepted_iff_one_limit_stated (library : Kdl.Library) (decodes : library.Decodes) :
    (∀ document, (∀ config,
        ofDocument library document = .ok config ↔ States document config.runStepLimit) ∧
      ((∃ details, details ≠ [] ∧ ofDocument library document = .error details) ↔
        ∀ n, ¬ States document n)) ∧
    (∀ text, ofText library text = .error .notKdl ↔ library.read? text = none) ∧
    ∀ text document, library.read? text = some document →
      (∀ config, ofText library text = .ok config ↔ States document config.runStepLimit) ∧
      ((∃ details, details ≠ [] ∧ ofText library text = .error (.invalid details)) ↔
        ∀ n, ¬ States document n) ∧
      ∀ config, ofText library text = .ok config → document ≠ [] →
        ∃ node value integer, document = [node] ∧ node.arguments = [value] ∧
          value.literal = .integer integer ∧
            integer.magnitude = config.runStepLimit.toNat := by
  refine ⟨fun document => ⟨fun config => ofDocument_eq_ok_iff decodes, exists_details_iff decodes⟩,
    fun text => ofText_eq_notKdl_iff, fun text document read => ⟨fun config => ?_, ?_, ?_⟩⟩
  · rw [ofText_eq_ok_iff_of_document read, ofDocument_eq_ok_iff decodes]
  · simp only [ofText_eq_invalid_iff read, exists_details_iff decodes]
  · intro config accepted spoken
    rw [ofText_eq_ok_iff_of_document read, ofDocument_eq_ok_iff decodes] at accepted
    exact accepted.exists_literal spoken

/-- A limit that is discarded is no limit, and the same one stated twice is one too many. -/
theorem discarded_limit_is_silent :
    let seven : Kdl.Integer := ⟨.none, .decimal, ['7'], 7, rfl⟩
    let most : Kdl.Integer := ⟨.plus, .decimal, ['4', '2'], 42, rfl⟩
    let twice : Kdl.Node := .single "run-step-limit" ⟨none, .integer seven⟩
    Kdl.library.Decodes ∧
      Kdl.library.read? "/-run-step-limit 1\nrun-step-limit (u64)+4_2 /-7" =
        some [.single "run-step-limit" ⟨some "u64", .integer most⟩] ∧
      ofText Kdl.library "/-run-step-limit 1\nrun-step-limit (u64)+4_2 /-7" = .ok ⟨42⟩ ∧
      Kdl.library.read? "run-step-limit 7\nrun-step-limit 7" = some [twice, twice] ∧
      ∃ details, details ≠ [] ∧
        ofText Kdl.library "run-step-limit 7\nrun-step-limit 7" = .error (.invalid details) := by
  intro seven most twice
  obtain ⟨-, -, texts⟩ := accepted_iff_one_limit_stated Kdl.library Kdl.library_decodes
  have read : Kdl.library.read? "/-run-step-limit 1\nrun-step-limit (u64)+4_2 /-7" =
      some [.single "run-step-limit" ⟨some "u64", .integer most⟩] := rfl
  have readTwice : Kdl.library.read? "run-step-limit 7\nrun-step-limit 7" =
      some [twice, twice] := rfl
  have states : States [.single "run-step-limit" ⟨some "u64", .integer most⟩] 42 :=
    .limit (.inr rfl) Kdl.Sign.noConfusion rfl
  have unstated : ∀ n, ¬ States [twice, twice] n := by
    intro n states
    obtain ⟨_, _, _, alone, -⟩ := states.exists_literal (List.cons_ne_nil _ _)
    exact absurd (List.cons.inj alone).2 (List.cons_ne_nil _ _)
  obtain ⟨accepts, -, -⟩ := texts _ _ read
  obtain ⟨-, refuses, -⟩ := texts _ _ readTwice
  exact ⟨Kdl.library_decodes, read, (accepts ⟨42⟩).2 states, readTwice, refuses.2 unstated⟩

end Stepper.Config
