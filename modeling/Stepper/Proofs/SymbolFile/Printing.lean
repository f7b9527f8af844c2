import Mathlib.Data.List.Forall2
import Stepper.Proofs.SymbolFile.Reading
import Stepper.Proofs.SymbolTable.Declaring
import Stepper.Proofs.Text.Writing

/-!
A table can be written down as a symbol file. Only names by the grammar get into a table that was
read, and neither these nor written addresses hold anything that would end a token, so reading the
printed table gives the table back and finds no label twice.
-/
namespace Stepper.SymbolTable

/-- The line that declares a label, without the line feed. -/
def declaration (style : String → Address.Style) (entry : String × Address) : String :=
  entry.1 ++ " " ++ entry.2.written (style entry.1)

/-- A symbol file for a table, with a line for each entry; the label chooses how its address is
written. -/
def print (table : SymbolTable) (style : String → Address.Style) : String :=
  String.join (table.entries.map fun entry => declaration style entry ++ "\n")

theorem toList_declaration (style : String → Address.Style) (entry : String × Address) :
    (declaration style entry).toList =
      entry.1.toList ++ ' ' :: (entry.2.written (style entry.1)).toList := by
  simp [declaration]

theorem toList_print (table : SymbolTable) (style : String → Address.Style) :
    (table.print style).toList =
      Text.terminated (table.entries.map fun entry => (declaration style entry).toList) := by
  simp [print, Text.terminated, String.toList_join, List.flatMap_map]

/-! What a label or a written address is made of. -/

theorem LabelPart.solid {c : Char} (part : LabelPart c) : Text.isBlank c = false := by
  have order (a b : Char) : a ≤ b ↔ a.toNat ≤ b.toNat := Iff.rfl
  have same (a b : Char) : a = b ↔ a.toNat = b.toNat := Char.toNat_inj.symm
  simp only [LabelPart, LabelStart, order, same, Char.reduceToNat] at part
  simp [Text.isBlank, Text.blankRanges]
  omega

theorem LabelPart.not_commentMark {c : Char} (part : LabelPart c) : ¬ CommentMark c := by
  rintro (rfl | rfl) <;> rw [← isLabelPart_iff] at part <;> cases part

theorem Label.parts {label : List Char} (named : Label label) : ∀ c ∈ label, LabelPart c := by
  cases named with
  | intro start parts =>
    rw [List.forall_mem_cons]
    exact ⟨.inl start, parts⟩

theorem Label.ne_nil {label : List Char} (named : Label label) : label ≠ [] := by
  cases named
  exact List.cons_ne_nil _ _

theorem labelPart_of_isDigit {base value : Nat} {c : Char} (small : base ≤ 16)
    (digit : Numeral.IsDigit base c value) : LabelPart c := by
  obtain ⟨below, named⟩ := digit
  have range : value < 16 := Nat.lt_of_lt_of_le below small
  rw [← isLabelPart_iff]
  interval_cases value <;> rcases named with rfl | rfl <;> decide

/-- A written address would be a label if it did not begin with a digit. -/
theorem labelPart_of_mem_written {addr : Address} {style : Address.Style} {c : Char}
    (member : c ∈ (addr.written style).toList) : LabelPart c := by
  have digits {base : Nat} (large : 1 < base) (small : base ≤ 16)
      (written : c ∈ Nat.toDigits base addr.toNat) : LabelPart c := by
    obtain ⟨value, digit⟩ := Numeral.exists_isDigit_of_mem_toDigits large written
    exact labelPart_of_isDigit small digit
  cases style with
  | hexadecimal =>
    rw [Address.toList_written_hexadecimal, List.mem_cons, List.mem_cons] at member
    rcases member with rfl | rfl | member
    · exact isLabelPart_iff.1 rfl
    · exact isLabelPart_iff.1 rfl
    · exact digits (by decide) (by decide) member
  | decimal =>
    rw [Address.toList_written_decimal] at member
    exact digits (by decide) (by decide) member

/-! Reading one declaration. -/

theorem reads_pair {label token : List Char} {addr : Address} (named : Label label)
    (parts : ∀ c ∈ token, LabelPart c) (spelled : Address.Spells token addr) :
    Reads (label ++ ' ' :: token) (some (String.ofList label, addr)) := by
  have clean : ∀ c ∈ label ++ ' ' :: token, ¬ CommentMark c := by
    simp only [List.forall_mem_append, List.forall_mem_cons]
    refine ⟨fun c member => (named.parts c member).not_commentMark, ?_, fun c member =>
      (parts c member).not_commentMark⟩
    simp [CommentMark]
  have last : Text.Tokens token [token] := by
    simpa using Text.Tokens.token spelled.ne_nil (fun c member => (parts c member).solid) (by simp)
      .nil
  have both : Text.Tokens (label ++ ' ' :: token) [label, token] :=
    .token named.ne_nil (fun c member => (named.parts c member).solid) (by simp; decide)
      (.blank (by decide) last)
  exact ⟨[label, token], ⟨_, ⟨clean, [], by simp, by simp⟩, both⟩, .pair named spelled⟩

theorem reads_declaration {entry : String × Address} (named : Label entry.1.toList)
    (style : String → Address.Style) : Reads (declaration style entry).toList (some entry) := by
  rw [toList_declaration]
  simpa using reads_pair named (fun c member => labelPart_of_mem_written member)
    (Address.spells_written entry.2 (style entry.1))

theorem reads_empty : Reads [] none :=
  ⟨[], ⟨[], ⟨by simp, [], rfl, by simp⟩, .nil⟩, .blank⟩

theorem newline_not_mem_declaration {entry : String × Address} (named : Label entry.1.toList)
    (style : String → Address.Style) : '\n' ∉ (declaration style entry).toList := by
  have feed : ¬ LabelPart '\n' := fun part => absurd part.solid (by decide)
  rw [toList_declaration, List.mem_append, List.mem_cons]
  rintro (member | other | member)
  · exact feed (named.parts _ member)
  · cases other
  · exact feed (labelPart_of_mem_written member)

/-! Reading a table. -/

theorem label_of_forall₂_reads {lines : List (List Char)}
    {held : List (Option (String × Address))} (reads : List.Forall₂ Reads lines held)
    {entry : String × Address} (listed : some entry ∈ held) : Label entry.1.toList := by
  induction reads with
  | nil => cases listed
  | cons first _ ih =>
    rcases List.mem_cons.1 listed with rfl | later
    · obtain ⟨_, _, record⟩ := first
      cases record with
      | pair named spelled => simpa using named
    · exact ih later

theorem label_of_ofText {text : String} {table : SymbolTable}
    (parsed : (ofText text).value = .ok table) {label : String} (held : label ∈ table.labels) :
    Label label.toList := by
  obtain ⟨records, ⟨lines, _, reads⟩, rfl⟩ := value_ofText_eq_ok_iff.1 parsed
  rw [labels_ofPairs, mem_firstPlaces, List.mem_map] at held
  obtain ⟨entry, listed, rfl⟩ := held
  exact label_of_forall₂_reads reads (by simpa using listed)

theorem readsAll_print {table : SymbolTable} (named : ∀ label ∈ table.labels, Label label.toList)
    (style : String → Address.Style) :
    ReadsAll (table.print style).toList (table.entries.map some ++ [none]) := by
  have label (entry : String × Address) (held : entry ∈ table.entries) : Label entry.1.toList :=
    named entry.1 (List.mem_map_of_mem held)
  refine ⟨(table.entries.map fun entry => (declaration style entry).toList) ++ [[]], ?_, ?_⟩
  · rw [toList_print]
    apply Text.lines_terminated
    simp only [List.forall_mem_map]
    exact fun entry held => newline_not_mem_declaration (label entry held) style
  · refine List.rel_append ?_ (.cons reads_empty .nil)
    simp only [List.forall₂_map_left_iff, List.forall₂_map_right_iff, List.forall₂_same]
    exact fun entry held => reads_declaration (label entry held) style

theorem ofText_print {table : SymbolTable} (named : ∀ label ∈ table.labels, Label label.toList)
    (style : String → Address.Style) : ofText (table.print style) = ⟨.ok table, []⟩ := by
  change _ = Except.ok <$> Traced.mk table []
  rw [← ofPairs_entries table, ofText_eq_ok_iff]
  refine ⟨_, readsAll_print named style, ?_⟩
  simp

/-- The table comes back as it was, with its order, and so do the answers to all questions. -/
theorem printed_table_reads_back (text : String) (table : SymbolTable)
    (parsed : (ofText text).value = .ok table) (style : String → Address.Style) :
    ∃ again, ofText (table.print style) = ⟨.ok again, []⟩ ∧ again = table ∧
      (again == table) = true :=
  ⟨_, ofText_print (fun _ held => label_of_ofText parsed held) style, rfl, beq_self _⟩

/-- The label that is declared twice keeps its place and its last address. -/
theorem moved_label_reads_back :
    ∃ table, (ofText "loop 1 ; moved below\ndone +2\nloop 0X0f").value = .ok table ∧
      table.print (fun label => if label = "loop" then .hexadecimal else .decimal) =
        "loop 0xf\ndone 2\n" ∧
      ∃ again, ofText "loop 0xf\ndone 2\n" = ⟨.ok again, []⟩ ∧ again = table := by
  have parsed : (ofText "loop 1 ; moved below\ndone +2\nloop 0X0f").value =
      .ok (ofPairs [("loop", 1), ("done", 2), ("loop", 15)]).value := by
    have listed : records "loop 1 ; moved below\ndone +2\nloop 0X0f".toList =
        .ok [("loop", 1), ("done", 2), ("loop", 15)] := by rfl
    rw [value_ofText, listed]
    rfl
  have printed : (ofPairs [("loop", 1), ("done", 2), ("loop", 15)]).value.print
      (fun label => if label = "loop" then .hexadecimal else .decimal) = "loop 0xf\ndone 2\n" := by
    decide +kernel
  obtain ⟨again, read, same, _⟩ := printed_table_reads_back _ _ parsed
    fun label => if label = "loop" then .hexadecimal else .decimal
  rw [printed] at read
  exact ⟨_, parsed, printed, again, read, same⟩

end Stepper.SymbolTable
