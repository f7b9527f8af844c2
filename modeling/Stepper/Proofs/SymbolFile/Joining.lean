import Stepper.Proofs.SymbolFile.Reading
import Stepper.Proofs.SymbolTable.Merging

/-!
Symbol files can be put together. If the first text ends with its last line, no line of the two
texts runs into another, so a fault of the first text stays where it is, one of the second moves
down, and without a fault the tables are merged.
-/
namespace Stepper.SymbolTable

section Terminated

variable {front : String} {lines : List (List Char)}

theorem rawLines_of_terminated (whole : ∀ line ∈ lines, '\n' ∉ line)
    (cut : front.toList = Text.terminated lines) : Text.rawLines front.toList = lines ++ [[]] := by
  rw [cut]
  exact (Text.lines_terminated whole).rawLines_eq

theorem rawLines_of_terminated_append (whole : ∀ line ∈ lines, '\n' ∉ line)
    (cut : front.toList = Text.terminated lines) (back : String) :
    Text.rawLines (front ++ back).toList = lines ++ Text.rawLines back.toList := by
  rw [String.toList_append, cut]
  exact (Text.Lines.terminated_append whole (Text.rawLines_eq_iff.1 rfl)).rawLines_eq

theorem ofText_of_terminated (whole : ∀ line ∈ lines, '\n' ∉ line)
    (cut : front.toList = Text.terminated lines) :
    (ofText front).value =
      (numberedRecords 1 lines).map fun held => (ofPairs (held.filterMap id)).value := by
  have last : numberedRecords (1 + lines.length) [[]] = .ok [none] := rfl
  rw [value_ofText_eq_numberedRecords, rawLines_of_terminated whole cut, numberedRecords_append,
    last]
  cases numberedRecords 1 lines with
  | error error => rfl
  | ok held => simp [Except.bind, Except.map]

theorem ofText_of_terminated_append (whole : ∀ line ∈ lines, '\n' ∉ line)
    (cut : front.toList = Text.terminated lines) (back : String) :
    (ofText (front ++ back)).value = (numberedRecords 1 lines).bind fun held =>
      ((numberedRecords 1 (Text.rawLines back.toList)).mapError (.below lines.length)).map
        fun more => (ofPairs ((held ++ more).filterMap id)).value := by
  rw [value_ofText_eq_numberedRecords, rawLines_of_terminated_append whole cut,
    numberedRecords_append, numberedRecords_add]
  cases numberedRecords 1 lines with
  | error error => rfl
  | ok held => cases numberedRecords 1 (Text.rawLines back.toList) <;> rfl

/-- What two texts come to if the second is put behind the first. -/
structure Joined (front back : String) : Prop where
  faultInFront : ∀ error, (ofText front).value = .error error →
    (ofText (front ++ back)).value = .error error
  faultInBack : ∀ table error, (ofText front).value = .ok table →
    (ofText back).value = .error error → ∃ number fault, error = .line number fault ∧
      (ofText (front ++ back)).value = .error (.line (number + front.toList.count '\n') fault)
  merged : ∀ first second, (ofText front).value = .ok first → (ofText back).value = .ok second →
    ∃ table, (ofText (front ++ back)).value = .ok table ∧
      table = (ofPairs (first.entries ++ second.entries)).value ∧ table.Merges first second

theorem joined_of_faulty_front (whole : ∀ line ∈ lines, '\n' ∉ line)
    (cut : front.toList = Text.terminated lines) {error : Error}
    (failed : numberedRecords 1 lines = .error error) (back : String) : Joined front back := by
  have alone := ofText_of_terminated whole cut
  have joined := ofText_of_terminated_append whole cut back
  rw [failed] at alone joined
  exact {
    faultInFront := fun _ found => joined.trans (alone.symm.trans found)
    faultInBack := fun _ _ made _ => by cases alone.symm.trans made
    merged := fun _ _ made _ => by cases alone.symm.trans made }

theorem joined_of_faulty_back (whole : ∀ line ∈ lines, '\n' ∉ line)
    (cut : front.toList = Text.terminated lines) {held : List (Option (String × Address))}
    (read : numberedRecords 1 lines = .ok held) {back : String} {error : Error}
    (failed : numberedRecords 1 (Text.rawLines back.toList) = .error error) :
    Joined front back := by
  have alone := ofText_of_terminated whole cut
  have second := value_ofText_eq_numberedRecords back
  have joined := ofText_of_terminated_append whole cut back
  have count : front.toList.count '\n' = lines.length := by
    rw [cut, Text.count_terminated whole]
  obtain ⟨earlier, fault, _, rfl⟩ := numberedRecords_eq_error_iff.1 failed
  rw [read] at alone joined
  rw [failed] at second joined
  exact {
    faultInFront := fun _ found => by cases alone.symm.trans found
    faultInBack := by
      intro _ error _ found
      cases second.symm.trans found
      refine ⟨_, fault, rfl, ?_⟩
      rw [count]
      exact joined
    merged := fun _ _ _ made => by cases second.symm.trans made }

theorem joined_of_read (whole : ∀ line ∈ lines, '\n' ∉ line)
    (cut : front.toList = Text.terminated lines) {held more : List (Option (String × Address))}
    (read : numberedRecords 1 lines = .ok held) {back : String}
    (readBack : numberedRecords 1 (Text.rawLines back.toList) = .ok more) : Joined front back := by
  have alone := ofText_of_terminated whole cut
  have second := value_ofText_eq_numberedRecords back
  have joined := ofText_of_terminated_append whole cut back
  have table := ofPairs_append (held.filterMap id) (more.filterMap id)
  rw [← List.filterMap_append] at table
  rw [read] at alone joined
  rw [readBack] at second joined
  exact {
    faultInFront := fun _ failed => by cases alone.symm.trans failed
    faultInBack := fun _ _ _ failed => by cases second.symm.trans failed
    merged := by
      intro first other made madeBack
      cases alone.symm.trans made
      cases second.symm.trans madeBack
      refine ⟨_, joined, table, ?_⟩
      dsimp only
      rw [table]
      exact merges_merge _ _ }

end Terminated

/-- The first text is empty or ends with a line feed. -/
theorem joined_texts_merge (front back : String) (complete : Text.Complete front.toList) :
    Joined front back := by
  obtain ⟨lines, whole, cut⟩ := complete.exists_terminated
  cases read : numberedRecords 1 lines with
  | error error => exact joined_of_faulty_front whole cut read back
  | ok held =>
    cases readBack : numberedRecords 1 (Text.rawLines back.toList) with
    | error error => exact joined_of_faulty_back whole cut read readBack
    | ok more => exact joined_of_read whole cut read readBack

/-- A label that moves away, and a line without an address further down. -/
theorem joined_loop_texts :
    Text.Complete "loop 1\nend 2\n".toList ∧
      (∃ table, (ofText ("loop 1\nend 2\n" ++ "new 4\nend 0x1")).value = .ok table ∧
        table.entries = [("loop", 1), ("end", 1), ("new", 4)] ∧ table.labelAt 2 ≠ some "end") ∧
      (ofText ("loop 1\nend 2\n" ++ "# more\nnew")).value =
        .error (.line 4 (.missingAddress "new")) := by
  have complete : Text.Complete "loop 1\nend 2\n".toList := by decide
  have first : (ofText "loop 1\nend 2\n").value =
      .ok (ofPairs [("loop", 1), ("end", 2)]).value := by rfl
  have second : (ofText "new 4\nend 0x1").value =
      .ok (ofPairs [("new", 4), ("end", 1)]).value := by rfl
  have faulty : (ofText "# more\nnew").value = .error (.line 2 (.missingAddress "new")) := by rfl
  obtain ⟨table, joined, made, merges⟩ := (joined_texts_merge _ _ complete).merged _ _ first second
  obtain ⟨number, fault, same, moved⟩ :=
    (joined_texts_merge _ _ complete).faultInBack _ _ first faulty
  cases same
  refine ⟨complete, ⟨table, joined, ?_, ?_⟩, moved⟩
  · rw [made]
    rfl
  · exact merges.moved "end" 2 1 rfl rfl (by decide)

end Stepper.SymbolTable
