import Stepper.Proofs.Machine.Images

/-!
Programs as images. A word is written as its four bytes, the lowest first. Every list of words comes
back from its image, and every image of whole words from its words, so that neither holds anything
that the other one does not.
-/
namespace Stepper.WordMachine

def bytes (word : Word) : List UInt8 :=
  [word.toUInt8, (word >>> 8).toUInt8, (word >>> 16).toUInt8, (word >>> 24).toUInt8]

def encode (program : List Word) : Image := program.flatMap bytes

@[simp] theorem encode_nil : encode [] = [] := rfl

@[simp] theorem encode_cons (word : Word) (program : List Word) :
    encode (word :: program) = bytes word ++ encode program := rfl

theorem length_encode (program : List Word) : (encode program).length = 4 * program.length := by
  induction program with
  | nil => rfl
  | cons word program ih =>
    rw [encode_cons, List.length_append, ih, List.length_cons,
      show (bytes word).length = 4 from rfl]
    omega

theorem littleEndian_bytes (word : Word) :
    littleEndian word.toUInt8 (word >>> 8).toUInt8 (word >>> 16).toUInt8 (word >>> 24).toUInt8 =
      word := by
  apply UInt32.toNat_inj.1
  have below := word.toNat_lt
  rw [toNat_littleEndian]
  simp only [UInt32.toNat_toUInt8, UInt32.toNat_shiftRight, Nat.shiftRight_eq_div_pow,
    UInt32.reduceToNat, Nat.reduceMod, Nat.reducePow] at below ⊢
  omega

theorem bytes_littleEndian (b0 b1 b2 b3 : UInt8) :
    bytes (littleEndian b0 b1 b2 b3) = [b0, b1, b2, b3] := by
  have h0 := b0.toNat_lt
  have h1 := b1.toNat_lt
  have h2 := b2.toNat_lt
  have h3 := b3.toNat_lt
  simp only [bytes, List.cons.injEq, and_true, ← UInt8.toNat_inj, UInt32.toNat_toUInt8,
    UInt32.toNat_shiftRight, Nat.shiftRight_eq_div_pow, toNat_littleEndian, UInt32.reduceToNat,
    Nat.reduceMod, Nat.reducePow] at h0 h1 h2 h3 ⊢
  omega

theorem words_encode (program : List Word) : words (encode program) = program := by
  induction program with
  | nil => rfl
  | cons word program ih =>
    change littleEndian _ _ _ _ :: words (encode program) = _
    rw [littleEndian_bytes, ih]

theorem encode_words {image : Image} (aligned : 4 ∣ image.length) :
    encode (words image) = image := by
  induction image using words.induct with
  | case1 b0 b1 b2 b3 rest ih =>
    have alignedRest : 4 ∣ rest.length := by
      simp only [List.length_cons] at aligned
      omega
    rw [words, encode_cons, bytes_littleEndian, ih alignedRest]
    rfl
  | case2 image short =>
    rw [eq_nil_of_short aligned short]
    rfl

theorem length_words {image : Image} (aligned : 4 ∣ image.length) :
    4 * (words image).length = image.length := by
  rw [← length_encode, encode_words aligned]

end Stepper.WordMachine
