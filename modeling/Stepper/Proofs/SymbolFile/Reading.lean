import Stepper.Proofs.SymbolFile.Line
import Stepper.SymbolTable.Listing

/-!
Reading a symbol file. A text is accepted exactly if all its lines read as records, and these make
up the table; otherwise the first line that does not is the error, with its number and its fault.
Only the declarations are reported, so a text that is not accepted reports nothing.
-/
namespace Stepper.SymbolTable

/-- The record of a line or its fault, with the number of the line. -/
def judged (line : List Char × Nat) : Except Error (Option (String × Address)) :=
  (recordOfLine line.1).mapError (.line line.2)

def numberedRecords (start : Nat) (lines : List (List Char)) :
    Except Error (List (Option (String × Address))) :=
  (lines.zipIdx start).mapM judged

theorem numberedRecords_cons_of_reads {start : Nat} {line : List Char}
    {record : Option (String × Address)} (rest : List (List Char)) (reads : Reads line record) :
    numberedRecords start (line :: rest) =
      (numberedRecords (start + 1) rest).map (record :: ·) := by
  have read : judged (line, start) = .ok record := by
    rw [judged, recordOfLine_eq_ok_iff.2 reads]
    rfl
  unfold numberedRecords
  rw [List.zipIdx_cons, List.mapM_cons, read]
  rfl

theorem numberedRecords_cons_of_refuses {start : Nat} {line : List Char} {fault : Fault}
    (rest : List (List Char)) (refuses : Refuses line fault) :
    numberedRecords start (line :: rest) = .error (.line start fault) := by
  have refused : judged (line, start) = .error (.line start fault) := by
    rw [judged, recordOfLine_eq_error_iff.2 refuses]
    rfl
  unfold numberedRecords
  rw [List.zipIdx_cons, List.mapM_cons, refused]
  rfl

theorem reads_or_refuses (line : List Char) :
    (∃ record, Reads line record) ∨ ∃ fault, Refuses line fault := by
  cases judged : recordOfLine line with
  | ok record => exact .inl ⟨record, recordOfLine_eq_ok_iff.1 judged⟩
  | error fault => exact .inr ⟨fault, recordOfLine_eq_error_iff.1 judged⟩

theorem numberedRecords_of_reads {start : Nat} {lines : List (List Char)}
    {held : List (Option (String × Address))} (reads : List.Forall₂ Reads lines held) :
    numberedRecords start lines = .ok held := by
  induction reads generalizing start with
  | nil => rfl
  | cons first _ ih =>
    rw [numberedRecords_cons_of_reads _ first, ih]
    rfl

/-- What stands below the first refused line makes no difference. -/
theorem numberedRecords_of_refuses {start : Nat} {earlier later : List (List Char)}
    {line : List Char} {fault : Fault} (clean : ∀ before ∈ earlier, ∃ record, Reads before record)
    (refuses : Refuses line fault) :
    numberedRecords start (earlier ++ line :: later) =
      .error (.line (start + earlier.length) fault) := by
  induction earlier generalizing start with
  | nil =>
    rw [List.nil_append, numberedRecords_cons_of_refuses later refuses]
    rfl
  | cons before earlier ih =>
    obtain ⟨⟨record, reads⟩, others⟩ := List.forall_mem_cons.1 clean
    rw [List.cons_append, numberedRecords_cons_of_reads _ reads, ih others, List.length_cons,
      Nat.add_right_comm, Nat.add_assoc]
    rfl

theorem all_read_or_first_refused (lines : List (List Char)) :
    (∃ held, List.Forall₂ Reads lines held) ∨
      ∃ earlier line later fault, lines = earlier ++ line :: later ∧
        (∀ before ∈ earlier, ∃ record, Reads before record) ∧ Refuses line fault := by
  induction lines with
  | nil => exact .inl ⟨[], .nil⟩
  | cons line rest ih =>
    rcases reads_or_refuses line with ⟨record, reads⟩ | ⟨fault, refuses⟩
    · rcases ih with ⟨held, others⟩ | ⟨earlier, refused, later, fault, rfl, clean, refuses⟩
      · exact .inl ⟨record :: held, .cons reads others⟩
      · refine .inr ⟨line :: earlier, refused, later, fault, rfl, ?_, refuses⟩
        exact List.forall_mem_cons.2 ⟨⟨record, reads⟩, clean⟩
    · exact .inr ⟨[], line, rest, fault, rfl, by simp, refuses⟩

theorem numberedRecords_eq_ok_iff {start : Nat} {lines : List (List Char)}
    {held : List (Option (String × Address))} :
    numberedRecords start lines = .ok held ↔ List.Forall₂ Reads lines held := by
  refine ⟨fun read => ?_, numberedRecords_of_reads⟩
  rcases all_read_or_first_refused lines with ⟨_, reads⟩ | ⟨_, _, _, _, rfl, clean, refuses⟩
  · cases read.symm.trans (numberedRecords_of_reads reads)
    exact reads
  · cases read.symm.trans (numberedRecords_of_refuses clean refuses)

theorem numberedRecords_eq_error_iff {start : Nat} {lines : List (List Char)} {error : Error} :
    numberedRecords start lines = .error error ↔
      ∃ earlier fault, (∃ line later, lines = earlier ++ line :: later ∧
        (∀ before ∈ earlier, ∃ record, Reads before record) ∧ Refuses line fault) ∧
        error = .line (start + earlier.length) fault := by
  constructor
  · intro failed
    rcases all_read_or_first_refused lines with
      ⟨_, reads⟩ | ⟨earlier, line, later, fault, rfl, clean, refuses⟩
    · cases failed.symm.trans (numberedRecords_of_reads reads)
    · cases failed.symm.trans (numberedRecords_of_refuses clean refuses)
      exact ⟨earlier, fault, ⟨line, later, rfl, clean, refuses⟩, rfl⟩
  · rintro ⟨earlier, fault, ⟨line, later, rfl, clean, refuses⟩, rfl⟩
    exact numberedRecords_of_refuses clean refuses

theorem numberedRecords_append (start : Nat) (front back : List (List Char)) :
    numberedRecords start (front ++ back) = (numberedRecords start front).bind fun held =>
      (numberedRecords (start + front.length) back).map (held ++ ·) := by
  unfold numberedRecords
  rw [List.zipIdx_append, List.mapM_append]
  rfl

/-- The same error for a text that stands further down. -/
def Error.below (count : Nat) : Error → Error
  | .file name cause => .file name cause
  | .line number fault => .line (number + count) fault

theorem numberedRecords_add (start count : Nat) (lines : List (List Char)) :
    numberedRecords (start + count) lines =
      (numberedRecords start lines).mapError (.below count) := by
  induction lines generalizing start with
  | nil => rfl
  | cons line rest ih =>
    rcases reads_or_refuses line with ⟨record, reads⟩ | ⟨fault, refuses⟩
    · rw [numberedRecords_cons_of_reads rest reads, numberedRecords_cons_of_reads rest reads,
        Nat.add_right_comm, ih]
      cases numberedRecords (start + 1) rest <;> rfl
    · rw [numberedRecords_cons_of_refuses rest refuses,
        numberedRecords_cons_of_refuses rest refuses]
      rfl

/-- The records of a text, or the first fault in it. -/
def records (text : List Char) : Except Error (List (String × Address)) :=
  (numberedRecords 1 (Text.lines text)).map (List.filterMap id)

theorem recordOfNumbered_eq (line : List Char × Nat) :
    recordOfNumbered line = ExceptT.mk (pure (judged line)) := by
  unfold recordOfNumbered judged
  cases recordOfLine line.1 <;> rfl

theorem mapM_recordOfNumbered (lines : List (List Char × Nat)) :
    lines.mapM recordOfNumbered = ExceptT.mk (pure (lines.mapM judged)) := by
  induction lines with
  | nil => rfl
  | cons line lines ih =>
    rw [List.mapM_cons, List.mapM_cons, recordOfNumbered_eq, ih]
    cases judged line with
    | error error => rfl
    | ok record => cases lines.mapM judged <;> rfl

/-- Reading the records reports nothing, whether they are accepted or not. -/
theorem readRecords_eq (text : List Char) :
    readRecords text = ExceptT.mk (pure (records text)) := by
  unfold readRecords records numberedRecords
  rw [mapM_recordOfNumbered]
  cases ((Text.lines text).zipIdx 1).mapM judged <;> rfl

theorem ofText_of_records {text : String} {pairs : List (String × Address)}
    (read : records text.toList = .ok pairs) : ofText text = Except.ok <$> ofPairs pairs := by
  unfold ofText
  rw [readRecords_eq, read]
  rfl

theorem ofText_of_error {text : String} {error : Error}
    (failed : records text.toList = .error error) : ofText text = ⟨.error error, []⟩ := by
  unfold ofText
  rw [readRecords_eq, failed]
  rfl

theorem value_ofText (text : String) : (ofText text).value =
    (records text.toList).map fun pairs => (ofPairs pairs).value := by
  cases read : records text.toList with
  | error error => rw [ofText_of_error read]; rfl
  | ok pairs => rw [ofText_of_records read]; rfl

theorem trace_ofText_of_error {text : String} {error : Error}
    (failed : (ofText text).value = .error error) : (ofText text).trace = [] := by
  cases read : records text.toList with
  | error error => rw [ofText_of_error read]
  | ok pairs =>
    rw [value_ofText, read] at failed
    cases failed

/-- Behind the first line all lines count with what they declare alone. -/
theorem numberedRecords_cons_congr {start : Nat} {line other : List Char}
    {rest others : List (List Char)} (same : recordOfLine line = recordOfLine other)
    (agree : (numberedRecords (start + 1) rest).map (List.filterMap id) =
      (numberedRecords (start + 1) others).map (List.filterMap id)) :
    (numberedRecords start (line :: rest)).map (List.filterMap id) =
      (numberedRecords start (other :: others)).map (List.filterMap id) := by
  have declared (record : Option (String × Address))
      (read : Except Error (List (Option (String × Address)))) :
      (read.map (record :: ·)).map (List.filterMap id) =
        (read.map (List.filterMap id)).map (record.toList ++ ·) := by
    cases read with
    | error error => rfl
    | ok held => cases record <;> rfl
  cases judged : recordOfLine other with
  | ok record =>
    have reads := recordOfLine_eq_ok_iff.1 judged
    rw [← same] at judged
    rw [numberedRecords_cons_of_reads rest (recordOfLine_eq_ok_iff.1 judged),
      numberedRecords_cons_of_reads others reads, declared, declared, agree]
  | error fault =>
    have refuses := recordOfLine_eq_error_iff.1 judged
    rw [← same] at judged
    rw [numberedRecords_cons_of_refuses rest (recordOfLine_eq_error_iff.1 judged),
      numberedRecords_cons_of_refuses others refuses]

/-- Carriage returns before line feeds and an empty line at the end declare nothing. -/
theorem numberedRecords_trimmedLines (start : Nat) (lines : List (List Char)) :
    (numberedRecords start (Text.trimmedLines lines)).map (List.filterMap id) =
      (numberedRecords start lines).map (List.filterMap id) := by
  induction lines using Text.trimmedLines.induct generalizing start with
  | case1 => rfl
  | case2 last empty =>
    obtain rfl := List.isEmpty_iff.1 empty
    rfl
  | case3 last filled => rw [Text.trimmedLines, if_neg filled]
  | case4 line rest more ih =>
    rw [Text.trimmedLines.eq_3 _ _ more]
    exact numberedRecords_cons_congr (recordOfLine_withoutReturn line) (ih (start + 1))

theorem records_eq_numberedRecords (text : List Char) :
    records text = (numberedRecords 1 (Text.rawLines text)).map (List.filterMap id) :=
  numberedRecords_trimmedLines 1 (Text.rawLines text)

theorem value_ofText_eq_numberedRecords (text : String) : (ofText text).value =
    (numberedRecords 1 (Text.rawLines text.toList)).map fun held =>
      (ofPairs (held.filterMap id)).value := by
  rw [value_ofText, records_eq_numberedRecords]
  cases numberedRecords 1 (Text.rawLines text.toList) <;> rfl

theorem records_eq_ok_iff {text : List Char} {pairs : List (String × Address)} :
    records text = .ok pairs ↔ ∃ held, ReadsAll text held ∧ pairs = held.filterMap id := by
  rw [records_eq_numberedRecords]
  constructor
  · intro read
    cases listed : numberedRecords 1 (Text.rawLines text) with
    | error error =>
      rw [listed] at read
      cases read
    | ok held =>
      rw [listed] at read
      cases read
      exact ⟨held, ⟨_, Text.rawLines_eq_iff.1 rfl, numberedRecords_eq_ok_iff.1 listed⟩, rfl⟩
  · rintro ⟨held, ⟨lines, split, reads⟩, rfl⟩
    rw [Text.rawLines_eq_iff.2 split, numberedRecords_of_reads reads]
    rfl

theorem refusesBehind_iff {text : List Char} {earlier : List (List Char)} {fault : Fault} :
    RefusesBehind text earlier fault ↔
      ∃ line later, Text.rawLines text = earlier ++ line :: later ∧
        (∀ before ∈ earlier, ∃ record, Reads before record) ∧ Refuses line fault := by
  simp only [Text.rawLines_eq_iff]
  constructor
  · rintro ⟨clean, line, back, cut, whole, feed, refuses⟩
    obtain ⟨later, split⟩ := Text.exists_lines_append_iff.2
      ⟨fun before member => (clean before member).1, whole, back, cut, feed⟩
    exact ⟨line, later, split, fun before member => (clean before member).2, refuses⟩
  · rintro ⟨line, later, split, clean, refuses⟩
    obtain ⟨wholeBefore, whole, back, cut, feed⟩ := Text.exists_lines_append_iff.1 ⟨later, split⟩
    refine ⟨fun before member => ?_, line, back, cut, whole, feed, refuses⟩
    exact ⟨wholeBefore before member, clean before member⟩

theorem records_eq_error_iff {text : List Char} {error : Error} :
    records text = .error error ↔
      ∃ earlier fault, RefusesBehind text earlier fault ∧
        error = .line (1 + earlier.length) fault := by
  have failed : records text = .error error ↔
      numberedRecords 1 (Text.rawLines text) = .error error := by
    rw [records_eq_numberedRecords]
    cases numberedRecords 1 (Text.rawLines text) <;> simp [Except.map]
  rw [failed, numberedRecords_eq_error_iff]
  simp only [refusesBehind_iff]

theorem ofText_eq_ok_iff {text : String} {made : Traced SymbolTable} :
    ofText text = Except.ok <$> made ↔
      ∃ held, ReadsAll text.toList held ∧ made = ofPairs (held.filterMap id) := by
  constructor
  · intro parsed
    cases read : records text.toList with
    | error error =>
      rw [ofText_of_error read] at parsed
      cases congrArg Traced.value parsed
    | ok pairs =>
      obtain ⟨held, reads, rfl⟩ := records_eq_ok_iff.1 read
      exact ⟨held, reads, Traced.map_ok_inj (parsed.symm.trans (ofText_of_records read))⟩
  · rintro ⟨held, reads, rfl⟩
    exact ofText_of_records (records_eq_ok_iff.2 ⟨held, reads, rfl⟩)

theorem value_ofText_eq_ok_iff {text : String} {table : SymbolTable} :
    (ofText text).value = .ok table ↔
      ∃ held, ReadsAll text.toList held ∧ table = (ofPairs (held.filterMap id)).value := by
  rw [value_ofText]
  constructor
  · intro parsed
    cases read : records text.toList with
    | error error =>
      rw [read] at parsed
      cases parsed
    | ok pairs =>
      rw [read] at parsed
      obtain ⟨held, reads, rfl⟩ := records_eq_ok_iff.1 read
      exact ⟨held, reads, (Except.ok.inj parsed).symm⟩
  · rintro ⟨held, reads, rfl⟩
    rw [records_eq_ok_iff.2 ⟨held, reads, rfl⟩]
    rfl

theorem ofText_eq_error_iff {text : String} {error : Error} :
    (ofText text).value = .error error ↔
      ∃ earlier fault, RefusesBehind text.toList earlier fault ∧
        error = .line (1 + earlier.length) fault := by
  rw [value_ofText, ← records_eq_error_iff]
  cases records text.toList <;> simp [Except.map]

/-- A line feed ends every line before the faulty one, so counting them finds its number. -/
theorem ofText_follows_grammar (text : String) :
    (∀ made, ofText text = Except.ok <$> made ↔
      ∃ held, ReadsAll text.toList held ∧ made = ofPairs (held.filterMap id)) ∧
    (∀ error, (ofText text).value = .error error ↔
      ∃ earlier fault, RefusesBehind text.toList earlier fault ∧
        error = .line (1 + (Text.terminated earlier).count '\n') fault) := by
  refine ⟨fun made => ofText_eq_ok_iff, fun error => ?_⟩
  rw [ofText_eq_error_iff]
  apply exists_congr
  intro earlier
  apply exists_congr
  intro fault
  apply and_congr_right
  intro refuses
  rw [Text.count_terminated fun before member => (refuses.1 before member).1]

example : records "main +7\n.b\t0X+1f;far\n".toList = .ok [("main", 7), (".b", 31)] := by rfl

example : records "main 7\n0x10 9 extra\nfar".toList = .error (.line 2 (.invalidLabel "0x10")) := by
  rfl

end Stepper.SymbolTable
