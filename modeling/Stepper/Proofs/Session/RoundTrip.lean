import Mathlib.Data.List.GetD
import Stepper.Proofs.Debugger.Verdict
import Stepper.Proofs.Machine.Encoding
import Stepper.Proofs.Session.SymbolRange

/-!
Programs go through memory and come back. What a debugger reads behind a load is the program that
the image encodes, with zeros behind it, so the image can be told from the memory alone.
-/
namespace Stepper.Debugger
open WordMachine (capacity encode words)

variable {d other : Debugger WordMachine} {image : Image} {symbols : SymbolTable}

/-- The words at the first addresses, if all of these may be read. -/
def readWords (d : Debugger WordMachine) (count : Nat) :
    Except (Error WordMachine.Fault) (List Word) :=
  (List.range count).mapM fun i => d.readMemory i.toUInt32

theorem mapM_eq_ok {α β ε : Type} {f : α → Except ε β} {g : α → β} {xs : List α}
    (each : ∀ x ∈ xs, f x = .ok (g x)) : xs.mapM f = .ok (xs.map g) := by
  induction xs with
  | nil => rfl
  | cons x xs ih =>
    rw [List.forall_mem_cons] at each
    rw [List.mapM_cons, each.1, ih each.2]
    rfl

theorem toNat_toUInt32_of_lt {i : Nat} (within : i < 64) : i.toUInt32.toNat = i :=
  UInt32.toNat_ofNat_of_lt (within.trans (by decide))

/-- A program that is loaded is made of whole words, and no more of them than memory holds. -/
theorem length_words_of_loaded (loaded : (d.loadImage image symbols).result = .ok ()) :
    4 ∣ image.length ∧ (words image).length = image.length / 4 ∧
      (words image).length ≤ 64 := by
  obtain ⟨count, sized, fits, -⟩ := exists_count_of_fits (symbols_loadImage loaded)
  have small : count ≤ 64 := fits
  have aligned : 4 ∣ image.length := ⟨count, sized⟩
  have whole := WordMachine.length_words aligned
  refine ⟨aligned, ?_, ?_⟩ <;> omega

theorem readMemory_of_loaded (loaded : (d.loadImage image symbols).result = .ok ()) {addr : Address}
    (within : addr.toNat < capacity) :
    (d.loadImage image symbols).debugger.readMemory addr =
      .ok ((words image).getD addr.toNat 0) := by
  rw [readMemory_of_lt within, loadImage_ok_debugger loaded, WordMachine.readMemory_start _ within]

theorem readMemory_word_of_loaded (loaded : (d.loadImage image symbols).result = .ok ()) {i : Nat}
    (held : i < (words image).length) :
    (d.loadImage image symbols).debugger.readMemory i.toUInt32 = .ok (words image)[i] := by
  have fits := (length_words_of_loaded loaded).2.2
  have number := toNat_toUInt32_of_lt (held.trans_le fits)
  have within : i.toUInt32.toNat < capacity := by
    rw [number]
    exact held.trans_le fits
  rw [readMemory_of_loaded loaded within, number, List.getD_eq_getElem _ _ held]

theorem readWords_of_loaded (loaded : (d.loadImage image symbols).result = .ok ()) :
    (d.loadImage image symbols).debugger.readWords (image.length / 4) = .ok (words image) := by
  have counted := (length_words_of_loaded loaded).2.1
  have each : ∀ i ∈ List.range (image.length / 4),
      (d.loadImage image symbols).debugger.readMemory i.toUInt32 =
        .ok ((words image).getD i 0) := by
    intro i listed
    rw [List.mem_range, ← counted] at listed
    rw [readMemory_word_of_loaded loaded listed, List.getD_eq_getElem _ _ listed]
  rw [readWords, mapM_eq_ok each]
  congr 1
  apply List.ext_getElem
  · rw [List.length_map, List.length_range, counted]
  · intro i listed held
    rw [List.getElem_map, List.getElem_range, List.getD_eq_getElem _ _ held]

/-- Two images of one length can be told apart by what is read behind their loads. -/
theorem exists_readMemory_ne {otherImage : Image} {otherSymbols : SymbolTable}
    (loaded : (d.loadImage image symbols).result = .ok ())
    (otherLoaded : (other.loadImage otherImage otherSymbols).result = .ok ())
    (sized : image.length = otherImage.length) (apart : image ≠ otherImage) :
    ∃ addr : Address, addr.toNat < image.length / 4 ∧
      (d.loadImage image symbols).debugger.readMemory addr ≠
        (other.loadImage otherImage otherSymbols).debugger.readMemory addr := by
  by_contra alike
  push Not at alike
  obtain ⟨aligned, counted, fits⟩ := length_words_of_loaded loaded
  obtain ⟨otherAligned, otherCounted, -⟩ := length_words_of_loaded otherLoaded
  apply apart
  rw [← WordMachine.encode_words aligned, ← WordMachine.encode_words otherAligned]
  congr 1
  apply List.ext_getElem
  · rw [counted, otherCounted, sized]
  · intro i held otherHeld
    have number := toNat_toUInt32_of_lt (held.trans_le fits)
    have same := alike i.toUInt32 (by omega)
    rw [readMemory_word_of_loaded loaded held,
      readMemory_word_of_loaded otherLoaded otherHeld] at same
    exact Except.ok.inj same

/-- The first part is about programs as words, the second one about images as bytes. Each holds in
every state, whatever the memory held before. -/
theorem images_round_trip (d : Debugger WordMachine) :
    (∀ (program : List Word) (symbols : SymbolTable), program.length ≤ 64 →
      (∀ entry ∈ symbols.entries, entry.2.toNat < program.length) →
        let loaded := d.loadImage (encode program) symbols
        loaded.result = .ok () ∧
          (∀ addr word, program[addr.toNat]? = some word →
            loaded.debugger.readMemory addr = .ok word) ∧
          (∀ addr, program.length ≤ addr.toNat → addr.toNat < 64 →
            loaded.debugger.readMemory addr = .ok 0) ∧
          ∀ addr, 64 ≤ addr.toNat →
            loaded.debugger.readMemory addr = .error (.outOfBounds addr)) ∧
    (∀ image symbols, (d.loadImage image symbols).result = .ok () →
      (∃ program, (d.loadImage image symbols).debugger.readWords (image.length / 4) = .ok program ∧
        encode program = image) ∧
      ∀ (other : Debugger WordMachine) otherImage otherSymbols,
        (other.loadImage otherImage otherSymbols).result = .ok () →
        image.length = otherImage.length → image ≠ otherImage →
          ∃ addr : Address, addr.toNat < image.length / 4 ∧
            (d.loadImage image symbols).debugger.readMemory addr ≠
              (other.loadImage otherImage otherSymbols).debugger.readMemory addr) := by
  refine ⟨fun program symbols fits inside => ?_, fun image symbols loaded => ⟨?_, ?_⟩⟩
  · intro loaded
    have done : loaded.result = .ok () :=
      loadImage_of_inside (WordMachine.length_encode program) fits inside
    have read (addr : Address) (within : addr.toNat < 64) :
        loaded.debugger.readMemory addr = .ok (program.getD addr.toNat 0) := by
      rw [readMemory_of_loaded done within, WordMachine.words_encode]
    refine ⟨done, fun addr word found => ?_, fun addr behind within => ?_,
      fun addr outside => readMemory_of_outside outside⟩
    · have held := (List.getElem?_eq_some_iff.1 found).1
      rw [read addr (by omega), List.getD_eq_getElem?_getD, found, Option.getD_some]
    · rw [read addr within, List.getD_eq_default _ _ behind]
  · have aligned := (length_words_of_loaded loaded).1
    exact ⟨words image, readWords_of_loaded loaded, WordMachine.encode_words aligned⟩
  · intro other otherImage otherSymbols otherLoaded sized apart
    exact exists_readMemory_ne loaded otherLoaded sized apart

/-- The program before was longer, so there is a word to be cleared. -/
theorem shorter_program_round_trips :
    let used := (ofEngine (WordMachine.start []) ⟨5⟩).performAll
      [.loadImage (encode [0x01000000, 8, 9]) .empty, .step]
    let program : List Word := [0x01020304, 0xFFFFFFFF]
    let symbols := (SymbolTable.ofPairs [("last", 1)]).value
    let loaded := used.loadImage (encode program) symbols
    used.readMemory 2 = .ok 9 ∧ encode program = [4, 3, 2, 1, 255, 255, 255, 255] ∧
      program.length ≤ 64 ∧ (∀ entry ∈ symbols.entries, entry.2.toNat < program.length) ∧
      loaded.result = .ok () ∧ loaded.debugger.readMemory 0 = .ok 0x01020304 ∧
      loaded.debugger.readMemory 2 = .ok 0 ∧
      loaded.debugger.readMemory 64 = .error (.outOfBounds 64) ∧
      ∃ read, loaded.debugger.readWords 2 = .ok read ∧ encode read = encode program := by
  intro used program symbols loaded
  have inside : ∀ entry ∈ symbols.entries, entry.2.toNat < program.length := by decide
  obtain ⟨forth, back⟩ := images_round_trip used
  obtain ⟨done, words, zeros, outside⟩ := forth program symbols (by decide) inside
  have count : (encode program).length / 4 = 2 := by
    rw [WordMachine.length_encode]
    exact Nat.mul_div_cancel_left 2 (by decide)
  have last := (back _ symbols done).1
  rw [count] at last
  exact ⟨by decide +kernel, rfl, by decide, inside, done, words 0 _ rfl,
    zeros 2 (by decide) (by decide), outside 64 (by decide), last⟩

end Stepper.Debugger
