import Stepper.Proofs.Debugger.Loading
import Stepper.Proofs.Machine.Images
import Stepper.Proofs.SymbolFile.Source
import Stepper.Proofs.SymbolTable.Declaring

/-!
What becomes of a load is decided by the two files alone. Of all that is wrong with them the first
thing in a fixed order is reported: the program as a file, the symbols as a file and as text, the
size of the image, and then the first label whose address lies behind the image.
-/
namespace Stepper.Debugger
open Machine LabelMap SymbolTable

theorem strayed?_eq_some_iff {table : SymbolTable} {extent : Extent} {label : String}
    {addr : Address} :
    strayed? table extent = some (label, addr) ↔
      ∃ before after, table.labels = before ++ label :: after ∧ table.resolve label = some addr ∧
        extent.contains addr = false ∧
        ∀ other ∈ before, ∀ a, table.resolve other = some a → extent.contains a = true := by
  unfold strayed?
  rw [List.find?_eq_some_iff_append]
  constructor
  · rintro ⟨outside, front, back, split, inside⟩
    refine ⟨front.map Prod.fst, back.map Prod.fst, ?_, ?_, ?_, ?_⟩
    · simp [labels, split]
    · exact resolve_eq_some_iff.2 (by simp [split])
    · simpa using outside
    · intro other listed a resolved
      obtain ⟨entry, member, rfl⟩ := List.mem_map.1 listed
      have held : table.resolve entry.1 = some entry.2 :=
        resolve_eq_some_iff.2 (by simp [split, member])
      rw [resolved, Option.some.injEq] at held
      simpa [held] using inside entry member
  · rintro ⟨before, after, split, resolved, outside, inside⟩
    obtain ⟨front, rest, whole, rfl, tail⟩ := List.map_eq_append_iff.1 split
    obtain ⟨entry, back, rfl, rfl, rfl⟩ := List.map_eq_cons_iff.1 tail
    have held (other : String × Address) (member : other ∈ front ++ entry :: back) :
        table.resolve other.1 = some other.2 := by
      rw [resolve_eq_some_iff, whole]
      exact member
    have same : some addr = some entry.2 := resolved.symm.trans (held entry (by simp))
    rw [Option.some.injEq] at same
    refine ⟨by simp [outside], front, back, by rw [whole, same], fun other member => ?_⟩
    have resolvedOther := held other (List.mem_append_left _ member)
    simpa using inside other.1 (List.mem_map_of_mem member) other.2 resolvedOther

/-- How loading two files into the word machine ends. Each case stands behind those before it: what
they look for was in order. -/
inductive LoadVerdict (program symbolFile : File) :
    Except (Error WordMachine.Fault) Unit → Prop where
  | noProgram {cause : File.Error} (unreadable : program.Unreadable cause) :
    LoadVerdict program symbolFile (.error (.load (.file program.name cause)))
  | noSymbols {image : Image} {cause : SymbolTable.Error} (stored : program.content = .bytes image)
    (rejects : Rejects symbolFile cause) :
    LoadVerdict program symbolFile (.error (.load (.symbols cause)))
  | misaligned {image : Image} {pairs : List (String × Address)}
    (stored : program.content = .bytes image) (lists : Lists symbolFile pairs)
    (odd : ¬ 4 ∣ image.length) :
    LoadVerdict program symbolFile (.error (.load (.image (.misaligned image.length))))
  | tooLarge {image : Image} {pairs : List (String × Address)} {words : Nat}
    (stored : program.content = .bytes image) (lists : Lists symbolFile pairs)
    (sized : image.length = 4 * words) (large : 64 < words) :
    LoadVerdict program symbolFile (.error (.load (.image (.tooLarge words))))
  | outOfRange {image : Image} {pairs : List (String × Address)} {words : Nat}
    {before after : List String} {label : String} {addr : Address}
    (stored : program.content = .bytes image) (lists : Lists symbolFile pairs)
    (sized : image.length = 4 * words) (fits : words ≤ 64)
    (order : firstPlaces pairs = before ++ label :: after)
    (inside : ∀ other ∈ before, ∀ a, lastAddress? pairs other = some a → a.toNat < words)
    (last : lastAddress? pairs label = some addr) (outside : words ≤ addr.toNat) :
    LoadVerdict program symbolFile (.error (.load (.symbolOutOfRange label addr)))
  | loaded {image : Image} {pairs : List (String × Address)} {words : Nat}
    (stored : program.content = .bytes image) (lists : Lists symbolFile pairs)
    (sized : image.length = 4 * words) (fits : words ≤ 64)
    (inside : ∀ label addr, lastAddress? pairs label = some addr → addr.toNat < words) :
    LoadVerdict program symbolFile (.ok ())

section Images

variable {σ ε : Type} [Engine σ ε] {d : Debugger σ} {image : Image} {symbols : SymbolTable}

theorem loadImage_of_rejected {fault : ε} (refused : Engine.extent d.engine image = .error fault) :
    (d.loadImage image symbols : Outcome σ ε Unit).result = .error (.load (.image fault)) := by
  unfold loadImage
  rw [refused]

theorem loadImage_of_strayed {extent : Extent} {label : String} {addr : Address}
    (accepted : Engine.extent d.engine image = .ok extent)
    (outside : strayed? symbols extent = some (label, addr)) :
    (d.loadImage image symbols : Outcome σ ε Unit).result =
      .error (.load (.symbolOutOfRange label addr)) := by
  unfold loadImage
  simp only [accepted, outside]

theorem loadImage_of_loaded {extent occupied : Extent}
    (accepted : Engine.extent d.engine image = .ok extent)
    (inside : strayed? symbols extent = none)
    (loaded : (Engine.load d.engine image).1 = .ok occupied) :
    (d.loadImage image symbols : Outcome σ ε Unit).result = .ok () := by
  unfold loadImage
  simp only [accepted, inside]
  rcases asked : Engine.load d.engine image with ⟨answer, engine⟩
  rw [asked] at loaded
  subst loaded
  rfl

theorem loadImage_of_inside {d : Debugger WordMachine} {words : Nat}
    (sized : image.length = 4 * words) (fits : words ≤ 64)
    (inside : ∀ entry ∈ symbols.entries, entry.2.toNat < words) :
    (d.loadImage image symbols).result = .ok () := by
  have accepted := WordMachine.extent_of_fits sized fits
  apply loadImage_of_loaded accepted
  · exact strayed?_eq_none_iff.2 fun entry held =>
      (WordMachine.contains_wordExtent fits entry.2).2 (inside entry held)
  · rw [wordMachine_load_fst, accepted]

/-- Loading from two files that can be read is loading what they hold. -/
theorem load_of_read {program symbolFile : File} {pairs : List (String × Address)}
    (stored : program.content = .bytes image) (lists : Lists symbolFile pairs) :
    (d.load program symbolFile : Outcome σ ε Unit) =
      { d.loadImage image (ofPairs pairs).value with
        trace := (ofPairs pairs).trace ++ (d.loadImage image (ofPairs pairs).value).trace } := by
  unfold load
  rw [File.bytes_eq_ok_iff.2 stored, ofFile_eq_ok_iff.2 ⟨pairs, lists, rfl⟩]
  dsimp only
  rw [Traced.trace_map]
  rfl

end Images

section Verdict

variable {program symbolFile : File} {pairs : List (String × Address)} {words : Nat}

theorem strayed?_ofPairs_eq_some_iff (fits : words ≤ 64) {label : String} {addr : Address} :
    strayed? (ofPairs pairs).value ⟨0, words.toUInt32⟩ = some (label, addr) ↔
      ∃ before after, firstPlaces pairs = before ++ label :: after ∧
        lastAddress? pairs label = some addr ∧ words ≤ addr.toNat ∧
        ∀ other ∈ before, ∀ a, lastAddress? pairs other = some a → a.toNat < words := by
  simp only [strayed?_eq_some_iff, labels_ofPairs, resolve_ofPairs, ← Bool.not_eq_true,
    WordMachine.contains_wordExtent fits, not_lt]

theorem strayed?_ofPairs_eq_none_iff (fits : words ≤ 64) :
    strayed? (ofPairs pairs).value ⟨0, words.toUInt32⟩ = none ↔
      ∀ label addr, lastAddress? pairs label = some addr → addr.toNat < words := by
  simp only [strayed?_eq_none_iff, WordMachine.contains_wordExtent fits, ← resolve_ofPairs,
    resolve_eq_some_iff, Prod.forall]

theorem LoadVerdict.result_eq {result : Except (Error WordMachine.Fault) Unit}
    (verdict : LoadVerdict program symbolFile result) (d : Debugger WordMachine) :
    (d.load program symbolFile).result = result := by
  cases verdict with
  | noProgram unreadable =>
    unfold load
    rw [File.bytes_eq_error_iff.2 unreadable]
    rfl
  | noSymbols stored rejects =>
    unfold load
    rw [File.bytes_eq_ok_iff.2 stored]
    dsimp only
    rw [ofFile_eq_error_iff.2 rejects]
  | misaligned stored lists odd =>
    rw [load_of_read stored lists]
    exact loadImage_of_rejected (WordMachine.extent_of_misaligned odd)
  | tooLarge stored lists sized large =>
    rw [load_of_read stored lists]
    exact loadImage_of_rejected (WordMachine.extent_of_tooLarge sized large)
  | outOfRange stored lists sized fits order inside last outside =>
    rw [load_of_read stored lists]
    apply loadImage_of_strayed (WordMachine.extent_of_fits sized fits)
    exact (strayed?_ofPairs_eq_some_iff fits).2 ⟨_, _, order, last, outside, inside⟩
  | loaded stored lists sized fits inside =>
    rw [load_of_read stored lists]
    have accepted := WordMachine.extent_of_fits sized fits
    apply loadImage_of_loaded accepted ((strayed?_ofPairs_eq_none_iff fits).2 inside)
    rw [wordMachine_load_fst, accepted]

theorem exists_loadVerdict (program symbolFile : File) :
    ∃ result, LoadVerdict program symbolFile result := by
  cases read : program.bytes with
  | error cause => exact ⟨_, .noProgram (File.bytes_eq_error_iff.1 read)⟩
  | ok image =>
    have stored := File.bytes_eq_ok_iff.1 read
    cases listed : (ofFile symbolFile).value with
    | error cause => exact ⟨_, .noSymbols stored (ofFile_eq_error_iff.1 listed)⟩
    | ok table =>
      obtain ⟨pairs, lists, -⟩ := value_ofFile_eq_ok_iff.1 listed
      by_cases odd : ¬ 4 ∣ image.length
      · exact ⟨_, .misaligned stored lists odd⟩
      obtain ⟨words, sized⟩ := not_not.1 odd
      by_cases fits : words ≤ 64
      · cases strays : strayed? (ofPairs pairs).value ⟨0, words.toUInt32⟩ with
        | none =>
          have inside := (strayed?_ofPairs_eq_none_iff fits).1 strays
          exact ⟨_, .loaded stored lists sized fits inside⟩
        | some entry =>
          obtain ⟨before, after, order, last, outside, inside⟩ :=
            (strayed?_ofPairs_eq_some_iff fits).1 strays
          exact ⟨_, .outOfRange stored lists sized fits order inside last outside⟩
      · exact ⟨_, .tooLarge stored lists sized (not_le.1 fits)⟩

theorem result_load_eq_iff (d : Debugger WordMachine)
    {result : Except (Error WordMachine.Fault) Unit} :
    (d.load program symbolFile).result = result ↔ LoadVerdict program symbolFile result := by
  obtain ⟨decided, verdict⟩ := exists_loadVerdict program symbolFile
  constructor
  · rintro rfl
    rw [verdict.result_eq d]
    exact verdict
  · exact fun verdict => verdict.result_eq d

end Verdict

/-- The debugger has no part in the verdict. Two files that can be read are as good as what they
hold. -/
theorem load_decided_by_files (d : Debugger WordMachine) (program symbolFile : File) :
    (∀ result, (d.load program symbolFile).result = result ↔
      LoadVerdict program symbolFile result) ∧
    ((d.load program symbolFile).result = .ok () ↔
      ∃ image pairs words, program.content = .bytes image ∧ Lists symbolFile pairs ∧
        image.length = 4 * words ∧ words ≤ 64 ∧
        ∀ label addr, lastAddress? pairs label = some addr → addr.toNat < words) ∧
    (∀ image text symbols, program.content = .bytes image → symbolFile.Holds text →
      (ofText text).value = .ok symbols →
        (d.load program symbolFile).result = (d.loadImage image symbols).result ∧
        (d.load program symbolFile).debugger = (d.loadImage image symbols).debugger) := by
  refine ⟨fun result => result_load_eq_iff d, ?_, ?_⟩
  · rw [result_load_eq_iff]
    constructor
    · intro verdict
      cases verdict with
      | loaded stored lists sized fits inside =>
        exact ⟨_, _, _, stored, lists, sized, fits, inside⟩
    · rintro ⟨image, pairs, words, stored, lists, sized, fits, inside⟩
      exact .loaded stored lists sized fits inside
  · intro image text symbols stored holds parsed
    obtain ⟨held, reads, rfl⟩ := value_ofText_eq_ok_iff.1 parsed
    rw [load_of_read stored ⟨text, held, holds, reads, rfl⟩]
    exact ⟨rfl, rfl⟩

end Stepper.Debugger
