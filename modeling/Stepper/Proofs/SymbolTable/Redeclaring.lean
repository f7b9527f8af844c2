import Mathlib.Data.List.Basic
import Stepper.Proofs.Debugger.Loading
import Stepper.Proofs.SymbolFile.Source
import Stepper.Proofs.SymbolTable.Declaring

/-!
A label that is declared again is reported, each time once: with the address that it leaves, which
is the one of its nearest declaration before, and with the one that it moves to. So the reports of a
label lead from its first address to its last. A text is read as a whole before anything is
declared, and one that is refused reports nothing.
-/
namespace Stepper

namespace SymbolTable
open LabelMap

/-- What is to be reported of the pair at a place. -/
def redeclaration? (pairs : List (String × Address)) (place : Nat) : Option Event :=
  pairs[place]?.bind fun pair =>
    (lastAddress? (pairs.take place) pair.1).map fun previous =>
      .duplicateLabel pair.1 previous pair.2

/-- The pair at a place declares a label again that was last declared at the previous address. -/
inductive Redeclares (pairs : List (String × Address)) : Nat → Event → Prop where
  | intro {earlier later front between : List (String × Address)} {label : String}
    {previous addr : Address} (cut : pairs = earlier ++ (label, addr) :: later)
    (before : earlier = front ++ (label, previous) :: between)
    (nearest : label ∉ between.map Prod.fst) :
    Redeclares pairs earlier.length (.duplicateLabel label previous addr)

section Places

variable {pairs : List (String × Address)} {label : String} {addr : Address}

theorem lastAddress?_eq_none_iff :
    lastAddress? pairs label = none ↔ label ∉ pairs.map Prod.fst := by
  rw [← resolve_ofPairs, resolve_eq_none_iff]
  change label ∉ (ofPairs pairs).value.labels ↔ _
  rw [labels_ofPairs, mem_firstPlaces]

theorem lastAddress?_eq_some_iff : lastAddress? pairs label = some addr ↔
    ∃ front back, pairs = front ++ (label, addr) :: back ∧ label ∉ back.map Prod.fst := by
  have others (back : List (String × Address)) :
      back.filter (fun pair => pair.1 == label) = [] ↔ label ∉ back.map Prod.fst := by
    simp only [List.filter_eq_nil_iff, beq_iff_eq, List.mem_map, not_exists, not_and]
  unfold lastAddress?
  constructor
  · intro last
    obtain ⟨⟨name, _⟩, found, rfl⟩ := Option.map_eq_some_iff.1 last
    obtain ⟨earlier, listed⟩ := List.getLast?_eq_some_iff.1 found
    obtain ⟨front, rest, rfl, _, ending⟩ := List.filter_eq_append_iff.1 listed
    obtain ⟨skipped, back, rfl, _, named, nothing⟩ := List.filter_eq_cons_iff.1 ending
    obtain rfl : name = label := beq_iff_eq.1 named
    exact ⟨front ++ skipped, back, by simp, (others back).1 nothing⟩
  · rintro ⟨front, back, rfl, nearest⟩
    simp [(others back).2 nearest]

theorem exists_cut {place : Nat} {pair : String × Address} (found : pairs[place]? = some pair) :
    ∃ earlier later, pairs = earlier ++ pair :: later ∧ earlier.length = place := by
  obtain ⟨lt, rfl⟩ := List.getElem?_eq_some_iff.1 found
  refine ⟨pairs.take place, pairs.drop (place + 1), ?_, List.length_take_of_le lt.le⟩
  rw [List.getElem_cons_drop, List.take_append_drop]

theorem redeclaration?_append (earlier later : List (String × Address)) (pair : String × Address) :
    redeclaration? (earlier ++ pair :: later) earlier.length =
      (lastAddress? earlier pair.1).map fun previous => .duplicateLabel pair.1 previous pair.2 := by
  unfold redeclaration?
  rw [List.getElem?_append_right le_rfl, Nat.sub_self, List.take_left]
  rfl

theorem redeclaration?_concat_of_lt {place : Nat} (lt : place < pairs.length)
    (pair : String × Address) :
    redeclaration? (pairs ++ [pair]) place = redeclaration? pairs place := by
  unfold redeclaration?
  rw [List.getElem?_append_left lt, List.take_append_of_le_length lt.le]

theorem redeclaration?_eq_some_iff {place : Nat} {event : Event} :
    redeclaration? pairs place = some event ↔ Redeclares pairs place event := by
  constructor
  · intro reported
    obtain ⟨⟨label, addr⟩, found, _⟩ := Option.bind_eq_some_iff.1 reported
    obtain ⟨earlier, later, rfl, rfl⟩ := exists_cut found
    rw [redeclaration?_append, Option.map_eq_some_iff] at reported
    obtain ⟨previous, last, rfl⟩ := reported
    obtain ⟨front, between, before, nearest⟩ := lastAddress?_eq_some_iff.1 last
    exact .intro rfl before nearest
  · rintro ⟨rfl, before, nearest⟩
    rw [redeclaration?_append, lastAddress?_eq_some_iff.2 ⟨_, _, before, nearest⟩]
    rfl

theorem exists_redeclares_iff {place : Nat} : (∃ event, Redeclares pairs place event) ↔
    ∃ pair, pairs[place]? = some pair ∧ pair.1 ∈ (pairs.take place).map Prod.fst := by
  constructor
  · rintro ⟨_, @⟨earlier, _, _, _, label, _, addr, rfl, before, _⟩⟩
    refine ⟨(label, addr), by simp, ?_⟩
    rw [List.take_left, before]
    simp
  · rintro ⟨pair, found, held⟩
    obtain ⟨earlier, later, rfl, rfl⟩ := exists_cut found
    rw [List.take_left] at held
    cases last : lastAddress? earlier pair.1 with
    | none => exact absurd held (lastAddress?_eq_none_iff.1 last)
    | some previous =>
      have reported : redeclaration? (earlier ++ pair :: later) earlier.length =
          some (.duplicateLabel pair.1 previous pair.2) := by
        rw [redeclaration?_append, last]
        rfl
      exact ⟨_, redeclaration?_eq_some_iff.1 reported⟩

end Places

theorem trace_ofPairs (pairs : List (String × Address)) : (ofPairs pairs).trace =
    ((List.range pairs.length).filterMap (redeclaration? pairs)).map .event := by
  induction pairs using List.reverseRecOn with
  | nil => rfl
  | append_singleton pairs pair ih =>
    have before : (List.range pairs.length).filterMap (redeclaration? (pairs ++ [pair])) =
        (List.range pairs.length).filterMap (redeclaration? pairs) := by
      apply List.filterMap_congr
      intro place listed
      exact redeclaration?_concat_of_lt (List.mem_range.1 listed) pair
    rw [ofPairs_concat, List.length_append, List.length_singleton, List.range_succ,
      List.filterMap_append, before, List.map_append, ← ih, resolve_ofPairs]
    dsimp only
    rw [List.filterMap_cons, redeclaration?_append]
    cases lastAddress? pairs pair.1 <;> rfl

/-- All reports of a sequence of declarations, each with its place. -/
def reports (pairs : List (String × Address)) : List (Nat × Event) :=
  (List.range pairs.length).filterMap fun place =>
    (redeclaration? pairs place).map fun event => (place, event)

theorem trace_ofPairs_eq (pairs : List (String × Address)) :
    (ofPairs pairs).trace = (reports pairs).map fun report => .event report.2 := by
  rw [trace_ofPairs, reports, List.map_filterMap, List.map_filterMap]
  simp only [Option.map_map, Function.comp_def]

theorem places_ascend (pairs : List (String × Address)) :
    ((reports pairs).map Prod.fst).Pairwise (· < ·) := by
  rw [List.pairwise_map]
  apply List.pairwise_lt_range.filterMap
  intro place other lt report made last reported
  obtain ⟨_, _, rfl⟩ := Option.map_eq_some_iff.1 made
  obtain ⟨_, _, rfl⟩ := Option.map_eq_some_iff.1 reported
  exact lt

theorem mem_reports_iff {pairs : List (String × Address)} {place : Nat} {event : Event} :
    (place, event) ∈ reports pairs ↔ Redeclares pairs place event := by
  rw [← redeclaration?_eq_some_iff]
  constructor
  · intro listed
    obtain ⟨_, _, made⟩ := List.mem_filterMap.1 listed
    obtain ⟨_, reported, same⟩ := Option.map_eq_some_iff.1 made
    cases same
    exact reported
  · intro reported
    obtain ⟨_, found, _⟩ := Option.bind_eq_some_iff.1 reported
    obtain ⟨lt, _⟩ := List.getElem?_eq_some_iff.1 found
    exact List.mem_filterMap.2 ⟨place, List.mem_range.2 lt, by rw [reported]; rfl⟩

theorem length_trace_add_size (pairs : List (String × Address)) :
    (ofPairs pairs).trace.length + (ofPairs pairs).value.size = pairs.length := by
  have size (table : SymbolTable) : table.size = table.labels.length := (List.length_map _).symm
  induction pairs using List.reverseRecOn with
  | nil => rfl
  | append_singleton pairs pair ih =>
    rw [size] at ih
    rw [ofPairs_concat, size]
    dsimp only
    rw [toLabelMap_indexed, labels_declare]
    cases resolved : (ofPairs pairs).value.resolve pair.1 with
    | none =>
      have missing : pair.1 ∉ (ofPairs pairs).value.labels := resolve_eq_none_iff.1 resolved
      rw [if_neg missing]
      simp
      omega
    | some previous =>
      have held := isSome_resolve_iff.1 (Option.isSome_of_eq_some resolved)
      rw [if_pos held]
      simp
      omega

/-! The reports of one label. -/

/-- The moves of a label from one address to another that a report tells of. -/
def moves (label : String) (trace : List Trace) : List (Address × Address) :=
  trace.filterMap fun
    | .event (.duplicateLabel moved previous addr) =>
      if moved = label then some (previous, addr) else none
    | _ => none

/-- Each move starts where the one before it has ended. -/
inductive Leads : Address → List (Address × Address) → Address → Prop where
  | stays (addr : Address) : Leads addr [] addr
  | move {first next last : Address} {rest : List (Address × Address)}
    (onwards : Leads next rest last) : Leads first ((first, next) :: rest) last

theorem Leads.concat {first last : Address} {moves : List (Address × Address)}
    (leads : Leads first moves last) (next : Address) :
    Leads first (moves ++ [(last, next)]) next := by
  induction leads with
  | stays => exact .move (.stays next)
  | move _ ih => exact .move ih

theorem moves_append (label : String) (front back : List Trace) :
    moves label (front ++ back) = moves label front ++ moves label back := List.filterMap_append

theorem moves_ofPairs_concat (pairs : List (String × Address)) (pair : String × Address)
    (label : String) : moves label (ofPairs (pairs ++ [pair])).trace =
      moves label (ofPairs pairs).trace ++
        if pair.1 = label then
          (lastAddress? pairs label).toList.map fun previous => (previous, pair.2)
        else [] := by
  rw [ofPairs_concat, resolve_ofPairs]
  dsimp only
  rw [moves_append]
  congr 1
  split
  · next same =>
    subst same
    cases lastAddress? pairs pair.1 <;> simp [moves]
  · next other => cases lastAddress? pairs pair.1 <;> simp [moves, other]

theorem moves_eq_nil {pairs : List (String × Address)} {label : String}
    (fresh : lastAddress? pairs label = none) : moves label (ofPairs pairs).trace = [] := by
  induction pairs using List.reverseRecOn with
  | nil => rfl
  | append_singleton pairs pair ih =>
    rw [lastAddress?_concat] at fresh
    split at fresh
    · cases fresh
    · next other => rw [moves_ofPairs_concat, ih fresh, if_neg (Ne.symm other), List.append_nil]

theorem lastAddress?_eq_none_of_lookup {pairs : List (String × Address)} {label : String}
    (missing : pairs.lookup label = none) : lastAddress? pairs label = none := by
  rw [lastAddress?_eq_none_iff, List.mem_map]
  rintro ⟨pair, held, rfl⟩
  simpa using List.lookup_eq_none_iff.1 missing pair held

theorem leads_moves {pairs : List (String × Address)} {label : String} {first : Address}
    (declared : pairs.lookup label = some first) : ∃ last,
      lastAddress? pairs label = some last ∧
        Leads first (moves label (ofPairs pairs).trace) last := by
  induction pairs using List.reverseRecOn with
  | nil => cases declared
  | append_singleton pairs pair ih =>
    rw [List.lookup_append] at declared
    rw [moves_ofPairs_concat, lastAddress?_concat]
    cases before : pairs.lookup label with
    | none =>
      -- The pair is the first one of the label, or else there would be none.
      have fresh := lastAddress?_eq_none_of_lookup before
      rw [before, Option.none_or, List.lookup_cons] at declared
      split at declared
      · next same =>
        cases declared
        rw [if_pos (beq_iff_eq.1 same), moves_eq_nil fresh, fresh]
        refine ⟨pair.2, rfl, ?_⟩
        simpa using Leads.stays pair.2
      · cases declared
    | some found =>
      rw [before, Option.some_or, Option.some.injEq] at declared
      subst declared
      obtain ⟨last, resolved, leads⟩ := ih before
      by_cases same : label = pair.1
      · rw [if_pos same, if_pos same.symm, resolved]
        exact ⟨pair.2, rfl, leads.concat pair.2⟩
      · rw [if_neg same, if_neg (Ne.symm same), List.append_nil]
        exact ⟨last, resolved, leads⟩

/-- What is reported of a sequence of declarations. -/
structure ReportsDuplicates (pairs : List (String × Address)) (made : Traced SymbolTable) :
    Prop where
  inOrder : ∃ reports : List (Nat × Event),
    made.trace = reports.map (fun report => .event report.2) ∧
      (reports.map Prod.fst).Pairwise (· < ·) ∧
      ∀ place event, (place, event) ∈ reports ↔ Redeclares pairs place event
  repeated : ∀ place, (∃ event, Redeclares pairs place event) ↔
    ∃ pair, pairs[place]? = some pair ∧ pair.1 ∈ (pairs.take place).map Prod.fst
  count : made.trace.length + made.value.size = pairs.length
  chain : ∀ label first, pairs.lookup label = some first → ∃ last,
    made.value.resolve label = some last ∧ Leads first (moves label made.trace) last

theorem reportsDuplicates_ofPairs (pairs : List (String × Address)) :
    ReportsDuplicates pairs (ofPairs pairs) where
  inOrder :=
    ⟨reports pairs, trace_ofPairs_eq pairs, places_ascend pairs, fun _ _ => mem_reports_iff⟩
  repeated := fun _ => exists_redeclares_iff
  count := length_trace_add_size pairs
  chain := by
    intro label first declared
    rw [resolve_ofPairs]
    exact leads_moves declared

/-! The reports of a text, as one sees them where a debugger loads it. -/

theorem exists_error_of_refuses {text : String} {line : List Char} {fault : Fault}
    (listed : line ∈ Text.lines text.toList) (refuses : Refuses line fault) :
    ∃ error, (ofText text).value = .error error := by
  obtain ⟨earlier, later, cut⟩ := List.append_of_mem listed
  rw [value_ofText, records, cut, numberedRecords_append,
    numberedRecords_cons_of_refuses later refuses]
  cases numberedRecords 1 earlier with
  | error error => exact ⟨error, rfl⟩
  | ok held => exact ⟨_, rfl⟩

section Loaded

variable {σ ε : Type} [Engine σ ε] {text : String} {symbolFile : File}

theorem trace_load_of_readsAll (d : Debugger σ) {held : List (Option (String × Address))}
    (reads : ReadsAll text.toList held) {program : File} {image : Image}
    (read : program.bytes = .ok image) (holds : symbolFile.Holds text) :
    (d.load program symbolFile : Debugger.Outcome σ ε Unit).trace =
      (ofPairs (held.filterMap id)).trace ++
        (d.loadImage image (ofPairs (held.filterMap id)).value :
          Debugger.Outcome σ ε Unit).trace := by
  have listed : ofFile symbolFile = Except.ok <$> ofPairs (held.filterMap id) :=
    ofFile_eq_ok_iff.2 ⟨_, ⟨text, held, holds, reads, rfl⟩, rfl⟩
  unfold Debugger.load
  rw [read, listed]
  dsimp only
  rw [Traced.trace_map]
  rfl

theorem trace_load_of_refused (d : Debugger σ) {line : List Char} {fault : Fault}
    (listed : line ∈ Text.lines text.toList) (refuses : Refuses line fault) (program : File)
    (holds : symbolFile.Holds text) :
    (d.load program symbolFile : Debugger.Outcome σ ε Unit).trace = [] := by
  obtain ⟨error, refused⟩ := exists_error_of_refuses listed refuses
  rw [← ofFile_of_text holds] at refused
  have ends :
      d.FileLoad program symbolFile (d.load program symbolFile : Debugger.Outcome σ ε Unit) :=
    Debugger.load_cases d program symbolFile
  generalize (d.load program symbolFile : Debugger.Outcome σ ε Unit) = outcome at ends
  cases ends with
  | noProgram => rfl
  | noSymbols => exact trace_ofFile_of_error refused
  | both _ accepted => cases refused.symm.trans accepted

end Loaded

/-- A text reports what its declarations report, and nothing if one of its lines is faulty. -/
structure ReportsIfAccepted (text : String) : Prop where
  accepted : ∀ held, ReadsAll text.toList held →
    ofText text = Except.ok <$> ofPairs (held.filterMap id)
  refused : ∀ line fault, line ∈ Text.lines text.toList → Refuses line fault →
    (∃ error, (ofText text).value = .error error) ∧ (ofText text).trace = []
  silent : ∀ error, (ofText text).value = .error error → (ofText text).trace = []
  loaded : ∀ {σ ε : Type} [Engine σ ε] (d : Debugger σ) (program symbolFile : File) image held,
    program.bytes = .ok image → symbolFile.Holds text → ReadsAll text.toList held →
      (d.load program symbolFile : Debugger.Outcome σ ε Unit).trace =
        (ofPairs (held.filterMap id)).trace ++
          (d.loadImage image (ofPairs (held.filterMap id)).value :
            Debugger.Outcome σ ε Unit).trace
  turnedDown : ∀ {σ ε : Type} [Engine σ ε] (d : Debugger σ) (program symbolFile : File) line fault,
    symbolFile.Holds text → line ∈ Text.lines text.toList → Refuses line fault →
      (d.load program symbolFile : Debugger.Outcome σ ε Unit).trace = []

theorem duplicates_are_reported :
    (∀ pairs, ReportsDuplicates pairs (ofPairs pairs)) ∧ ∀ text, ReportsIfAccepted text := by
  refine ⟨reportsDuplicates_ofPairs, fun text => ?_⟩
  exact {
    accepted := fun held reads => ofText_eq_ok_iff.2 ⟨held, reads, rfl⟩
    refused := by
      intro line fault listed refuses
      obtain ⟨error, refused⟩ := exists_error_of_refuses listed refuses
      exact ⟨⟨error, refused⟩, trace_ofText_of_error refused⟩
    silent := fun _ => trace_ofText_of_error
    loaded := fun d _ _ _ _ read holds reads => trace_load_of_readsAll d reads read holds
    turnedDown := fun d program _ _ _ holds listed refuses =>
      trace_load_of_refused d listed refuses program holds }

/-- A label that moves and then stays, and a text whose last line lacks an address. -/
theorem moved_loop_reports :
    (∃ last, (ofPairs [("loop", 1), ("end", 2), ("loop", 3), ("loop", 3)]).value.resolve "loop" =
        some last ∧
      Leads 1 (moves "loop"
        (ofPairs [("loop", 1), ("end", 2), ("loop", 3), ("loop", 3)]).trace) last) ∧
      (moves "loop" (ofPairs [("loop", 1), ("end", 2), ("loop", 3), ("loop", 3)]).trace) =
        [(1, 3), (3, 3)] ∧
      (ofText "loop 1\nloop 2").trace.length = 1 ∧
      (∃ error, (ofText "loop 1\nloop 2\nend").value = .error error) ∧
      (ofText "loop 1\nloop 2\nend").trace = [] := by
  have refuses : Refuses "end".toList (.missingAddress "end") :=
    recordOfLine_eq_error_iff.1 (by rfl)
  have reads : ReadsAll "loop 1\nloop 2".toList [some ("loop", 1), some ("loop", 2)] := by
    refine ⟨_, Text.rawLines_eq_iff.1 rfl, ?_⟩
    exact .cons (recordOfLine_eq_ok_iff.1 rfl) (.cons (recordOfLine_eq_ok_iff.1 rfl) .nil)
  obtain ⟨declared, read⟩ := duplicates_are_reported
  refine ⟨(declared _).chain "loop" 1 rfl, rfl, ?_, (read _).refused _ _ (by decide) refuses⟩
  rw [(read _).accepted _ reads]
  rfl

end SymbolTable

end Stepper
