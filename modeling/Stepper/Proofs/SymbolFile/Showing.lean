import Stepper.Proofs.SymbolFile.Printing

/-!
Locations are shown without ambiguity. The text of an address reads back as this address and begins
with a digit, as no label does. So among all addresses and the labels of a table that was read, no
two locations are shown alike.
-/
namespace Stepper

namespace Location

/-- An address can be meant whatever the table is, and a label if the table holds it. -/
def NamedIn (table : SymbolTable) : Location → Prop
  | .address _ => True
  | .label name => table.contains name = true

instance (table : SymbolTable) : DecidablePred (NamedIn table)
  | .address _ => inferInstanceAs (Decidable True)
  | .label name => inferInstanceAs (Decidable (table.contains name = true))

/-- A label is one by the grammar. -/
def WellNamed : Location → Prop
  | .address _ => True
  | .label name => SymbolTable.Label name.toList

theorem NamedIn.wellNamed {text : String} {table : SymbolTable} {location : Location}
    (parsed : (SymbolTable.ofText text).value = .ok table) (named : location.NamedIn table) :
    location.WellNamed := by
  cases location with
  | address addr => trivial
  | label name => exact SymbolTable.label_of_ofText parsed (LabelMap.isSome_resolve_iff.1 named)

theorem spells_text_address (addr : Address) : Address.Spells (address addr).text.toList addr :=
  Address.spells_written addr .hexadecimal

theorem text_address_inj {one other : Address} :
    (address one).text = (address other).text ↔ one = other := by
  refine ⟨fun same => ?_, congrArg fun addr => (address addr).text⟩
  have read := Address.read?_eq_some_iff.2 (spells_text_address one)
  rw [same, Address.read?_eq_some_iff.2 (spells_text_address other), Option.some.injEq] at read
  exact read.symm

theorem not_label_text_address (addr : Address) :
    ¬ SymbolTable.Label (address addr).text.toList := by
  have shown : (address addr).text.toList = '0' :: 'x' :: Nat.toDigits 16 addr.toNat :=
    Address.toList_written_hexadecimal addr
  rw [shown]
  rintro ⟨start, _⟩
  rw [← SymbolTable.isLabelStart_iff] at start
  cases start

theorem WellNamed.text_ne_address {name : String} (named : (label name).WellNamed)
    (addr : Address) : (label name).text ≠ (address addr).text := by
  intro same
  apply not_label_text_address addr
  rw [← same]
  exact named

theorem text_eq_iff {one other : Location} (oneNamed : one.WellNamed)
    (otherNamed : other.WellNamed) : one.text = other.text ↔ one = other := by
  cases one with
  | address addr =>
    cases other with
    | address otherAddr => rw [text_address_inj, address.injEq]
    | label otherName => exact iff_of_false (otherNamed.text_ne_address addr).symm nofun
  | label name =>
    cases other with
    | address otherAddr => exact iff_of_false (oneNamed.text_ne_address otherAddr) nofun
    | label otherName => rw [label.injEq, text, text]

end Location

namespace SymbolTable
open Location

variable {label : String} {addr : Address} {line : List Char}

theorem recordOfLine_of_shown (named : Label label.toList)
    (holds : Holds line [label.toList, (address addr).text.toList]) :
    recordOfLine line = .ok (some (label, addr)) := by
  rw [recordOfLine_eq_ok_iff]
  have record := Record.pair named (spells_text_address addr)
  rw [String.ofList_toList] at record
  exact ⟨_, holds, record⟩

theorem recordOfLine_of_shown_first {rest : List (List Char)}
    (holds : Holds line ((address addr).text.toList :: rest)) :
    recordOfLine line = .error (.invalidLabel (address addr).text) := by
  rw [recordOfLine_eq_error_iff]
  have refused : Refused ((address addr).text.toList :: rest) _ :=
    .invalidLabel (not_label_text_address addr)
  rw [String.ofList_toList] at refused
  exact ⟨_, holds, refused⟩

theorem ofText_of_shown (named : Label label.toList) :
    ofText (label ++ " " ++ (address addr).text) = Except.ok <$> ofPairs [(label, addr)] := by
  let entry : String × Address := (label, addr)
  have named : Label entry.1.toList := named
  have whole := newline_not_mem_declaration named fun _ => .hexadecimal
  have reads := reads_declaration named fun _ => .hexadecimal
  exact ofText_eq_ok_iff.2 ⟨[some entry], ⟨_, .last whole, .cons reads .nil⟩, rfl⟩

/-- The last part is about what stands where a label is expected, whatever comes behind it. -/
theorem shown_locations_are_told_apart :
    (∀ (text : String) (table : SymbolTable), (ofText text).value = .ok table →
      ∀ one other : Location, one.NamedIn table → other.NamedIn table →
        (one.text = other.text ↔ one = other)) ∧
    (∀ (label : String) (addr : Address), isLabel label.toList = true →
      (∀ line, Holds line [label.toList, (address addr).text.toList] →
        recordOfLine line = .ok (some (label, addr))) ∧
      ∃ table, ofText (label ++ " " ++ (address addr).text) = ⟨.ok table, []⟩ ∧
        table.entries = [(label, addr)]) ∧
    ∀ addr : Address, isLabel (address addr).text.toList = false ∧
      ∀ line rest, Holds line ((address addr).text.toList :: rest) →
        recordOfLine line = .error (.invalidLabel (address addr).text) := by
  refine ⟨?_, ?_, fun addr => ⟨?_, fun line rest => recordOfLine_of_shown_first⟩⟩
  · intro text table parsed one other oneNamed otherNamed
    exact text_eq_iff (oneNamed.wellNamed parsed) (otherNamed.wellNamed parsed)
  · intro label addr accepted
    have named := isLabel_iff.1 accepted
    exact ⟨fun line => recordOfLine_of_shown named, _, ofText_of_shown named, rfl⟩
  · rw [← Bool.not_eq_true, isLabel_iff]
    exact not_label_text_address addr

/-- A label may hold the text of an address, and lack no more than its first digit. -/
theorem lookalikes_are_told_apart :
    ∃ table, (ofText "x10 16\n.0x10 1").value = .ok table ∧
      (Location.label "x10").NamedIn table ∧ (Location.label ".0x10").NamedIn table ∧
      (Location.label "x10").text ≠ (address 0x10).text ∧
      (Location.label ".0x10").text ≠ (address 0x10).text ∧
      isLabel "x10".toList = true ∧
      recordOfLine "x10\t0x10;0x11".toList = .ok (some ("x10", 0x10)) ∧
      recordOfLine "0x10 1".toList = .error (.invalidLabel "0x10") := by
  have parsed : (ofText "x10 16\n.0x10 1").value =
      .ok (ofPairs [("x10", 16), (".0x10", 1)]).value := by
    have listed : records "x10 16\n.0x10 1".toList = .ok [("x10", 16), (".0x10", 1)] := by rfl
    rw [value_ofText, listed]
    rfl
  have shown : (address 0x10).text = "0x10" := by decide +kernel
  obtain ⟨apart, reads, unread⟩ := shown_locations_are_told_apart
  refine ⟨_, parsed, by decide, by decide, ?_, ?_, by decide, ?_, ?_⟩
  · rw [Ne, apart _ _ parsed (.label "x10") (.address 0x10) (by decide) (by decide)]
    exact Location.noConfusion
  · rw [Ne, apart _ _ parsed (.label ".0x10") (.address 0x10) (by decide) (by decide)]
    exact Location.noConfusion
  · apply (reads "x10" 0x10 (by decide)).1
    rw [← tokens_uncommented_eq_iff, shown]
    rfl
  · have refused := (unread 0x10).2 "0x10 1".toList [['1']]
    rw [← tokens_uncommented_eq_iff, shown] at refused
    exact refused rfl

end SymbolTable
end Stepper
