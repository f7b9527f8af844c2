import Stepper.Proofs.SymbolFile.Reading

/-!
A symbol file on its medium. A file gives a text only if all of its bytes are the encoding of one,
comments included, and a symbol file is turned down for the first thing that is wrong with it: as a
file, as a text, or in one of its lines.
-/
namespace Stepper

namespace File

/-- The bytes of the file are this text in UTF-8. -/
def Holds (file : File) (text : String) : Prop :=
  file.content = .bytes text.toUTF8.data.toList

inductive Unreadable (file : File) : Error → Prop where
  | notFound (missing : file.content = .missing) : Unreadable file .notFound
  | isDirectory (directory : file.content = .directory) : Unreadable file .isDirectory

inductive NoText (file : File) : Error → Prop where
  | unreadable {cause : Error} (unreadable : file.Unreadable cause) : NoText file cause
  | notText {content : Bytes} (stored : file.content = .bytes content)
    (undecodable : ∀ text, ¬ file.Holds text) : NoText file .notText

variable {file : File} {content : Bytes} {text : String} {cause : Error}

theorem bytes_eq_ok_iff : file.bytes = .ok content ↔ file.content = .bytes content := by
  unfold bytes
  cases file.content <;> simp

theorem bytes_eq_error_iff : file.bytes = .error cause ↔ file.Unreadable cause := by
  unfold bytes
  constructor
  · intro failed
    split at failed
    · next missing =>
      cases failed
      exact .notFound missing
    · next directory =>
      cases failed
      exact .isDirectory directory
    · cases failed
  · intro unreadable
    cases unreadable with
    | notFound missing => rw [missing]
    | isDirectory directory => rw [directory]

theorem decode_toUTF8 (text : String) : decode text.toUTF8.data.toList = .ok text := by
  have known : String.fromUTF8? ⟨text.toUTF8.data.toList.toArray⟩ = some text := by
    rw [Array.toArray_toList]
    exact dif_pos text.isValidUTF8
  rw [decode, known]

theorem decode_eq_ok_iff : decode content = .ok text ↔ content = text.toUTF8.data.toList := by
  constructor
  · intro decoded
    unfold decode String.fromUTF8? at decoded
    split at decoded
    · next known =>
      split at known
      · cases known
        cases decoded
        rfl
      · cases known
    · cases decoded
  · rintro rfl
    exact decode_toUTF8 text

theorem decode_eq_error_iff : decode content = .error cause ↔
    (∀ text : String, content ≠ text.toUTF8.data.toList) ∧ cause = .notText := by
  constructor
  · intro failed
    refine ⟨fun text same => ?_, ?_⟩
    · rw [same, decode_toUTF8] at failed
      cases failed
    · unfold decode at failed
      split at failed
      · cases failed
      · exact (Except.error.inj failed).symm
  · rintro ⟨undecodable, rfl⟩
    unfold decode
    split
    · next text known =>
      have decoded : decode content = .ok text := by rw [decode, known]
      exact absurd (decode_eq_ok_iff.1 decoded) (undecodable text)
    · rfl

theorem text_eq_ok_iff_holds : file.text = .ok text ↔ file.Holds text := by
  simp only [text_eq_ok_iff, bytes_eq_ok_iff, decode_eq_ok_iff, exists_eq_right, Holds]

theorem text_eq_error_iff : file.text = .error cause ↔ file.NoText cause := by
  unfold File.text
  constructor
  · intro failed
    cases read : file.bytes with
    | error other =>
      rw [read] at failed
      cases failed
      exact .unreadable (bytes_eq_error_iff.1 read)
    | ok content =>
      rw [read] at failed
      obtain ⟨undecodable, rfl⟩ := decode_eq_error_iff.1 failed
      have stored := bytes_eq_ok_iff.1 read
      refine .notText stored fun text holds => undecodable text ?_
      exact Content.bytes.inj (stored.symm.trans holds)
  · intro without
    cases without with
    | unreadable unreadable =>
      rw [bytes_eq_error_iff.2 unreadable]
      rfl
    | notText stored undecodable =>
      rw [bytes_eq_ok_iff.2 stored]
      refine decode_eq_error_iff.2 ⟨fun text same => undecodable text ?_, rfl⟩
      rw [Holds, stored, same]

end File

namespace SymbolTable

/-- The file is a symbol file of these declarations. -/
def Lists (file : File) (pairs : List (String × Address)) : Prop :=
  ∃ text held, file.Holds text ∧ ReadsAll text.toList held ∧ pairs = held.filterMap id

/-- Why a file is no symbol file. A line is counted only if the whole file is text. -/
inductive Rejects (file : File) : Error → Prop where
  | file {cause : File.Error} (without : file.NoText cause) : Rejects file (.file file.name cause)
  | line {text : String} {earlier : List (List Char)} {fault : Fault} (holds : file.Holds text)
    (refuses : RefusesBehind text.toList earlier fault) :
    Rejects file (.line (1 + earlier.length) fault)

variable {file : File}

theorem ofFile_of_text {text : String} (holds : file.Holds text) : ofFile file = ofText text := by
  rw [ofFile, File.text_eq_ok_iff_holds.2 holds]

theorem ofFile_of_noText {cause : File.Error} (without : file.NoText cause) :
    ofFile file = ⟨.error (.file file.name cause), []⟩ := by
  rw [ofFile, File.text_eq_error_iff.2 without]
  rfl

theorem ofFile_eq_ok_iff {made : Traced SymbolTable} :
    ofFile file = Except.ok <$> made ↔ ∃ pairs, Lists file pairs ∧ made = ofPairs pairs := by
  constructor
  · intro listed
    cases read : file.text with
    | error cause =>
      rw [ofFile_of_noText (File.text_eq_error_iff.1 read)] at listed
      cases congrArg Traced.value listed
    | ok text =>
      have holds := File.text_eq_ok_iff_holds.1 read
      rw [ofFile_of_text holds] at listed
      obtain ⟨held, reads, rfl⟩ := ofText_eq_ok_iff.1 listed
      exact ⟨_, ⟨text, held, holds, reads, rfl⟩, rfl⟩
  · rintro ⟨_, ⟨text, held, holds, reads, rfl⟩, rfl⟩
    rw [ofFile_of_text holds]
    exact ofText_eq_ok_iff.2 ⟨held, reads, rfl⟩

theorem value_ofFile_eq_ok_iff {table : SymbolTable} :
    (ofFile file).value = .ok table ↔
      ∃ pairs, Lists file pairs ∧ table = (ofPairs pairs).value := by
  constructor
  · intro listed
    obtain ⟨pairs, lists, same⟩ := ofFile_eq_ok_iff.1 (Traced.eq_map_ok listed)
    exact ⟨pairs, lists, congrArg Traced.value same⟩
  · rintro ⟨pairs, lists, rfl⟩
    rw [ofFile_eq_ok_iff.2 ⟨pairs, lists, rfl⟩]
    rfl

theorem ofFile_eq_error_iff {error : Error} :
    (ofFile file).value = .error error ↔ Rejects file error := by
  constructor
  · intro failed
    cases read : file.text with
    | error cause =>
      have without := File.text_eq_error_iff.1 read
      rw [ofFile_of_noText without] at failed
      cases failed
      exact .file without
    | ok text =>
      have holds := File.text_eq_ok_iff_holds.1 read
      rw [ofFile_of_text holds] at failed
      obtain ⟨earlier, fault, refuses, rfl⟩ := ofText_eq_error_iff.1 failed
      exact .line holds refuses
  · intro rejects
    cases rejects with
    | file without => rw [ofFile_of_noText without]
    | line holds refuses =>
      rw [ofFile_of_text holds]
      exact ofText_eq_error_iff.2 ⟨_, _, refuses, rfl⟩

/-- A file that is turned down reports nothing. -/
theorem trace_ofFile_of_error {error : Error} (failed : (ofFile file).value = .error error) :
    (ofFile file).trace = [] := by
  cases read : file.text with
  | error cause => rw [ofFile_of_noText (File.text_eq_error_iff.1 read)]
  | ok text =>
    rw [ofFile_of_text (File.text_eq_ok_iff_holds.1 read)] at failed ⊢
    exact trace_ofText_of_error failed

end SymbolTable
end Stepper
