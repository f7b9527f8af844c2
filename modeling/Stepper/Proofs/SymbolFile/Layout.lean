import Mathlib.Logic.Relation
import Stepper.Proofs.SymbolFile.Reading

/-!
The layout of a symbol file means nothing. Blanks may stand wherever they part no token, a comment
may end any line, and lines may end in a carriage return as well. A line that declares nothing only
moves the lines below it down.
-/
namespace Stepper.SymbolTable

open Text

/-! A text whose lines are laid out in another way. -/

theorem numberedRecords_congr {start : Nat} {lines others : List (List Char)}
    (same : others.map recordOfLine = lines.map recordOfLine) :
    numberedRecords start others = numberedRecords start lines := by
  have judged (lines : List (List Char)) : numberedRecords start lines =
      ((lines.map recordOfLine).zipIdx start).mapM fun judged =>
        judged.1.mapError (.line judged.2) := by
    rw [List.zipIdx_map, List.mapM_map]
    rfl
  rw [judged, judged, same]

theorem records_eq_of_lines {text edited : List Char} {lines others : List (List Char)}
    (split : Lines text lines) (splitEdited : Lines edited others)
    (same : others.map recordOfLine = lines.map recordOfLine) : records edited = records text := by
  rw [records_eq_numberedRecords, records_eq_numberedRecords, split.rawLines_eq,
    splitEdited.rawLines_eq, numberedRecords_congr same]

theorem records_insert {front inserted back : List Char} (whole : '\n' ∉ inserted)
    (same : ∀ before behind, before <:+ front → behind <+: back → '\n' ∉ behind →
      recordOfLine (before ++ inserted ++ behind) = recordOfLine (before ++ behind)) :
    records (front ++ inserted ++ back) = records (front ++ back) := by
  obtain ⟨earlier, before, behind, later, suffix, begun, wholeBehind, split⟩ :=
    exists_lines_around front back
  have unedited := split [] List.not_mem_nil
  rw [List.append_nil, List.append_nil] at unedited
  refine records_eq_of_lines unedited (split inserted whole) ?_
  rw [List.map_append, List.map_append, List.map_cons, List.map_cons,
    same before behind suffix begun wholeBehind]

/-- Every line feed with a carriage return before it. -/
def withReturns (text : List Char) : List Char :=
  text.flatMap fun c => if c = '\n' then ['\r', '\n'] else [c]

theorem withReturns_of_whole {line : List Char} (whole : '\n' ∉ line) :
    withReturns line = line := by
  induction line with
  | nil => rfl
  | cons c line ih =>
    rw [List.mem_cons, not_or] at whole
    have rest := ih whole.2
    unfold withReturns at rest ⊢
    rw [List.flatMap_cons, if_neg (Ne.symm whole.1), rest]
    rfl

theorem withReturns_line {line : List Char} (whole : '\n' ∉ line) (rest : List Char) :
    withReturns (line ++ '\n' :: rest) = (line ++ ['\r']) ++ '\n' :: withReturns rest := by
  have own := withReturns_of_whole whole
  unfold withReturns at own ⊢
  rw [List.flatMap_append, own, List.flatMap_cons, if_pos rfl]
  simp

theorem exists_lines_withReturns {text : List Char} {lines : List (List Char)}
    (split : Lines text lines) : ∃ others, Lines (withReturns text) others ∧
      others.map recordOfLine = lines.map recordOfLine := by
  induction split with
  | @last line whole =>
    rw [withReturns_of_whole whole]
    exact ⟨[line], .last whole, rfl⟩
  | @line line cs lines whole _ ih =>
    obtain ⟨others, split, same⟩ := ih
    rw [withReturns_line whole]
    refine ⟨(line ++ ['\r']) :: others, .line (by simpa using whole) split, ?_⟩
    rw [List.map_cons, List.map_cons, recordOfLine_append_return, same]

/-- A place at the edge of a line or beside a blank of the line. -/
inductive Gap (front back : List Char) : Prop where
  | lineStart (starts : Complete front)
  | lineEnd (ends : ∀ c ∈ back.head?, c = '\n')
  | behindBlank {c : Char} (last : front.getLast? = some c) (blank : isBlank c = true)
    (inLine : c ≠ '\n')
  | beforeBlank {c : Char} (first : back.head? = some c) (blank : isBlank c = true)
    (inLine : c ≠ '\n')

/-- A text and the same text in another layout. -/
inductive Relayout : List Char → List Char → Prop where
  | returns (text : List Char) : Relayout text (withReturns text)
  | comment {front comment back : List Char} {mark : Char} (begins : comment.head? = some mark)
    (marked : CommentMark mark) (whole : '\n' ∉ comment) (ends : ∀ c ∈ back.head?, c = '\n') :
    Relayout (front ++ back) (front ++ comment ++ back)
  | blank {front back : List Char} {c : Char} (blank : isBlank c = true) (inLine : c ≠ '\n')
    (gap : Gap front back) : Relayout (front ++ back) (front ++ [c] ++ back)
  | finalFeed (text : List Char) : Relayout text (text ++ ['\n'])

theorem Gap.parted {front back : List Char} (gap : Gap front back) : Parted front back := by
  cases gap with
  | lineStart starts => exact .inl fun d last => by rw [starts d last]; decide
  | lineEnd ends => exact .inr fun d first => by rw [ends d first]; decide
  | behindBlank last blank => exact .inl fun d other => by cases last.symm.trans other; exact blank
  | beforeBlank first blank =>
    refine .inr fun d other => ?_
    cases first.symm.trans other
    exact blank

/-! An idle line more. -/

/-- The same error in a text with one more line behind the first ones. -/
def Error.behindLine (place : Nat) : Error → Error
  | .file name cause => .file name cause
  | .line number fault => .line (if number ≤ place then number else number + 1) fault

theorem mapError_behindLine_of_le {start place : Nat} {lines : List (List Char)}
    (within : start + lines.length ≤ place + 1) :
    (numberedRecords start lines).mapError (.behindLine place) = numberedRecords start lines := by
  cases read : numberedRecords start lines with
  | ok held => rfl
  | error error =>
    obtain ⟨earlier, fault, ⟨line, later, rfl, _⟩, rfl⟩ := numberedRecords_eq_error_iff.1 read
    have above : start + earlier.length ≤ place := by
      rw [List.length_append, List.length_cons] at within
      omega
    simp only [Except.mapError, Error.behindLine, if_pos above]

theorem mapError_behindLine_of_lt {start place : Nat} (below : place < start)
    (lines : List (List Char)) :
    (numberedRecords start lines).mapError (.behindLine place) =
      numberedRecords (start + 1) lines := by
  rw [numberedRecords_add]
  cases read : numberedRecords start lines with
  | ok held => rfl
  | error error =>
    obtain ⟨earlier, fault, _, rfl⟩ := numberedRecords_eq_error_iff.1 read
    have under : ¬ start + earlier.length ≤ place := by omega
    simp only [Except.mapError, Error.behindLine, Error.below, if_neg under]

theorem numberedRecords_insert_idle {line : List Char} (idle : Idle line)
    (earlier later : List (List Char)) :
    (numberedRecords 1 (earlier ++ line :: later)).map (List.filterMap id) =
      ((numberedRecords 1 (earlier ++ later)).map (List.filterMap id)).mapError
        (.behindLine earlier.length) := by
  have reads : Reads line none := recordOfLine_eq_ok_iff.1 idle.recordOfLine_eq
  have above := mapError_behindLine_of_le (Nat.add_comm 1 earlier.length).le
  have under : earlier.length < 1 + earlier.length := by omega
  have below := mapError_behindLine_of_lt under later
  rw [numberedRecords_append, numberedRecords_append, numberedRecords_cons_of_reads later reads,
    ← below]
  cases read : numberedRecords 1 earlier with
  | error error =>
    rw [read] at above
    exact congrArg (Except.map (List.filterMap id)) above.symm
  | ok held =>
    cases numberedRecords (1 + earlier.length) later with
    | error error => rfl
    | ok more => simp [Except.map, Except.bind, Except.mapError]

section Lines

variable {text : List Char}

theorem records_insert_idle {edited line : List Char} {earlier later : List (List Char)}
    (split : Lines text (earlier ++ later)) (splitEdited : Lines edited (earlier ++ line :: later))
    (idle : Idle line) : records edited = (records text).mapError (.behindLine earlier.length) := by
  rw [records_eq_numberedRecords, records_eq_numberedRecords, split.rawLines_eq,
    splitEdited.rawLines_eq]
  exact numberedRecords_insert_idle idle earlier later

theorem records_mapError_behindLine {lines : List (List Char)} (split : Lines text lines) :
    (records text).mapError (.behindLine lines.length) = records text := by
  have above := mapError_behindLine_of_le (Nat.add_comm 1 lines.length).le
  rw [records_eq_numberedRecords, split.rawLines_eq]
  cases read : numberedRecords 1 lines with
  | ok held => rfl
  | error error =>
    rw [read] at above
    exact congrArg (Except.map (List.filterMap id)) above

/-- A final line feed puts an empty line behind all others. -/
theorem records_append_feed (text : List Char) : records (text ++ ['\n']) = records text := by
  obtain ⟨lines, split⟩ := exists_lines text
  have unedited : Lines text (lines ++ []) := by rwa [List.append_nil]
  have idle : Idle [] := ⟨[], [], rfl, by simp, by simp⟩
  rw [records_insert_idle unedited split.append_feed idle, records_mapError_behindLine split]

end Lines

theorem records_relayout {text edited : List Char} (relayout : Relayout text edited) :
    records edited = records text := by
  cases relayout with
  | returns =>
    obtain ⟨lines, split⟩ := exists_lines text
    obtain ⟨others, splitEdited, same⟩ := exists_lines_withReturns split
    exact records_eq_of_lines split splitEdited same
  | @comment front comment back mark begins marked whole ends =>
    refine records_insert whole fun before behind _ begun wholeBehind => ?_
    cases behind with
    | nil =>
      have starts : ∀ c ∈ comment.head?, CommentMark c := by
        intro c first
        cases begins.symm.trans first
        exact marked
      rw [List.append_nil, List.append_nil, recordOfLine_append_comment before starts]
    | cons c behind =>
      -- The line would go on behind its end.
      obtain ⟨_, rfl⟩ := begun
      obtain rfl : c = '\n' := ends c rfl
      exact absurd List.mem_cons_self wholeBehind
  | @blank front back c blank inLine gap =>
    refine records_insert (by simpa using Ne.symm inLine) fun before behind suffix begun _ => ?_
    rw [List.append_assoc]
    exact recordOfLine_insert_blank blank (gap.parted.narrow suffix begun)
  | finalFeed => exact records_append_feed text

theorem records_relayouts {text edited : List Char}
    (edits : Relation.ReflTransGen Relayout text edited) : records edited = records text := by
  induction edits with
  | refl => rfl
  | tail _ relayout ih => rw [records_relayout relayout, ih]

theorem ofText_of_records_eq {text edited : String}
    (same : records edited.toList = records text.toList) : ofText edited = ofText text := by
  cases read : records text.toList with
  | error error => rw [ofText_of_error read, ofText_of_error (same.trans read)]
  | ok pairs => rw [ofText_of_records read, ofText_of_records (same.trans read)]

theorem ofText_of_records_eq_mapError {text edited : String} {f : Error → Error}
    (same : records edited.toList = (records text.toList).mapError f) :
    ofText edited = Except.mapError f <$> ofText text := by
  cases read : records text.toList with
  | error error =>
    rw [read] at same
    rw [ofText_of_error read, ofText_of_error same]
    rfl
  | ok pairs =>
    rw [read] at same
    rw [ofText_of_records read, ofText_of_records same, Functor.map_map]
    rfl

/-- The second text is read as the first one, be it accepted or refused. A line that is put in moves
the fault down only if it stands above it. -/
theorem layout_is_ignored (text edited : String) :
    (Relation.ReflTransGen Relayout text.toList edited.toList → ofText edited = ofText text) ∧
      ∀ earlier line later, Lines text.toList (earlier ++ later) →
        Lines edited.toList (earlier ++ line :: later) → Idle line →
          ofText edited = Except.mapError (.behindLine earlier.length) <$> ofText text := by
  constructor
  · intro edits
    exact ofText_of_records_eq (records_relayouts edits)
  · intro earlier line later split splitEdited idle
    exact ofText_of_records_eq_mapError (records_insert_idle split splitEdited idle)

/-- A faulty text in another layout, and the same text with an idle line above and below. -/
theorem relaid_loop_text :
    ofText "loop 1\r;x\n end\n" = ofText "loop 1\nend" ∧
      ofText " # idle\nloop 1\nend" = ⟨.error (.line 3 (.missingAddress "end")), []⟩ ∧
      ofText "loop 1\nend\n # idle" = ⟨.error (.line 2 (.missingAddress "end")), []⟩ := by
  have feed : ∀ c ∈ "\nend".toList.head?, c = '\n' := by
    intro c first
    exact (Option.some.inj first).symm
  have start : Complete "loop 1\r;x\n".toList := by decide
  have edits : Relation.ReflTransGen Relayout "loop 1\nend".toList "loop 1\r;x\n end\n".toList := by
    have returns : Relayout "loop 1\nend".toList "loop 1\r\nend".toList := .returns _
    have comment : Relayout "loop 1\r\nend".toList "loop 1\r;x\nend".toList :=
      @Relayout.comment "loop 1\r".toList ";x".toList _ ';' rfl (.inr rfl) (by decide) feed
    have blank : Relayout "loop 1\r;x\nend".toList "loop 1\r;x\n end".toList :=
      @Relayout.blank "loop 1\r;x\n".toList "end".toList ' ' rfl (by decide) (.lineStart start)
    exact .tail (.tail (.tail (.single returns) comment) blank) (.finalFeed _)
  have idle : Idle " # idle".toList := by
    refine ⟨[' '], "# idle".toList, rfl, List.forall_mem_singleton.2 rfl, ?_⟩
    intro c first
    exact .inl (Option.some.inj first).symm
  have text : ofText "loop 1\nend" = ⟨.error (.line 2 (.missingAddress "end")), []⟩ := by rfl
  have split : Lines "loop 1\nend".toList ["loop 1".toList, "end".toList] := rawLines_eq_iff.1 rfl
  have above := (layout_is_ignored "loop 1\nend" " # idle\nloop 1\nend").2 []
    " # idle".toList _ split (rawLines_eq_iff.1 rfl) idle
  have below := (layout_is_ignored "loop 1\nend" "loop 1\nend\n # idle").2
    ["loop 1".toList, "end".toList] " # idle".toList [] split (rawLines_eq_iff.1 rfl) idle
  rw [text] at above below
  exact ⟨(layout_is_ignored _ _).1 edits, above, below⟩

end Stepper.SymbolTable
