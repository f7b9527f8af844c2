import Stepper.WordMachine.Basic

/-!
Images of the word machine, by the number of their words. A loaded word has the value of four bytes
of the image.
-/
namespace Stepper.WordMachine

theorem extent_of_misaligned {image : Image} (odd : ¬ 4 ∣ image.length) :
    extent image = .error (.misaligned image.length) := by
  simp only [extent]
  rw [if_pos (by omega)]

theorem extent_of_tooLarge {image : Image} {count : Nat} (sized : image.length = 4 * count)
    (large : capacity < count) : extent image = .error (.tooLarge count) := by
  have quarter : image.length / 4 = count := by omega
  simp only [extent]
  rw [if_neg (by omega), if_pos (by omega), quarter]

theorem extent_of_fits {image : Image} {count : Nat} (sized : image.length = 4 * count)
    (fits : count ≤ capacity) : extent image = .ok ⟨0, count.toUInt32⟩ := by
  have quarter : image.length / 4 = count := by omega
  rw [extent_eq_ok_iff, quarter]
  exact ⟨by omega, fits, rfl⟩

theorem exists_count_of_extent {image : Image} {occupied : Extent}
    (accepted : extent image = .ok occupied) :
    ∃ count, image.length = 4 * count ∧ count ≤ capacity ∧ occupied = ⟨0, count.toUInt32⟩ := by
  obtain ⟨aligned, fits, rfl⟩ := extent_eq_ok_iff.1 accepted
  exact ⟨image.length / 4, by omega, fits, rfl⟩

theorem contains_wordExtent {count : Nat} (fits : count ≤ capacity) (addr : Address) :
    (Extent.mk 0 count.toUInt32).contains addr = true ↔ addr.toNat < count := by
  have small : count ≤ 64 := fits
  rw [Extent.contains_iff]
  simp only [UInt32.lt_iff_toNat_lt, UInt32.le_iff_toNat_le]
  simp
  omega

/-- The word with this number in an image, made of four bytes, the lowest first. -/
def HasWord (image : Image) (i : Nat) (word : Word) : Prop :=
  ∃ b0 b1 b2 b3, (image.drop (4 * i)).take 4 = [b0, b1, b2, b3] ∧
    word.toNat = b0.toNat + 0x100 * b1.toNat + 0x10000 * b2.toNat + 0x1000000 * b3.toNat

theorem exists_word {image : Image} {i : Nat} (within : 4 * i + 4 ≤ image.length) :
    ∃ word, HasWord image i word ∧ (words image)[i]? = some word := by
  induction i generalizing image with
  | zero =>
    match image, within with
    | b0 :: b1 :: b2 :: b3 :: rest, _ =>
      exact ⟨littleEndian b0 b1 b2 b3, ⟨b0, b1, b2, b3, rfl, toNat_littleEndian b0 b1 b2 b3⟩, rfl⟩
  | succ i ih =>
    match image, within with
    | b0 :: b1 :: b2 :: b3 :: rest, within =>
      have within : 4 * i + 4 ≤ rest.length := by
        simp only [List.length_cons] at within
        omega
      obtain ⟨word, has, found⟩ := ih within
      exact ⟨word, has, found⟩

/-- The word with this number in an image that zeros follow, made of its four bytes. -/
def paddedWord (image : Image) (i : Nat) : Word :=
  littleEndian (image.getD (4 * i) 0) (image.getD (4 * i + 1) 0) (image.getD (4 * i + 2) 0)
    (image.getD (4 * i + 3) 0)

theorem paddedWord_of_le {image : Image} {i : Nat} (beyond : image.length ≤ 4 * i) :
    paddedWord image i = 0 := by
  have padding (k : Nat) (le : 4 * i ≤ k) : image.getD k 0 = 0 :=
    by simp [List.getD, List.getElem?_eq_none (Nat.le_trans beyond le)]
  rw [paddedWord, padding _ (Nat.le_refl _), padding _ (by omega), padding _ (by omega),
    padding _ (by omega)]
  rfl

/-- An image of whole words is empty if it does not begin with one. -/
theorem eq_nil_of_short {image : Image} (aligned : 4 ∣ image.length)
    (short : ∀ b0 b1 b2 b3 rest, image = b0 :: b1 :: b2 :: b3 :: rest → False) : image = [] := by
  match image with
  | [] => rfl
  | [_] | [_, _] | [_, _, _] => simp at aligned
  | b0 :: b1 :: b2 :: b3 :: rest => exact absurd rfl (short b0 b1 b2 b3 rest)

theorem getD_words {image : Image} (aligned : 4 ∣ image.length) (i : Nat) :
    (words image).getD i 0 = paddedWord image i := by
  induction image using words.induct generalizing i with
  | case1 b0 b1 b2 b3 rest ih =>
    cases i with
    | zero => rfl
    | succ i =>
      have alignedRest : 4 ∣ rest.length := by
        simp only [List.length_cons] at aligned
        omega
      exact ih alignedRest i
  | case2 image short =>
    rw [eq_nil_of_short aligned short, paddedWord_of_le (Nat.zero_le _)]
    rfl

theorem getElem?_memory_start (program : List Word) {i : Nat} (within : i < capacity) :
    (start program).memory[i]? = some (program.getD i 0) := by
  simp [start, within]

theorem readMemory_start (program : List Word) {addr : Address} (within : addr.toNat < capacity) :
    (start program).readMemory addr = program.getD addr.toNat 0 := by
  simp [readMemory, readMemory?, start, within]

end Stepper.WordMachine
