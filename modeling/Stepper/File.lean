/-!
A file as a reader meets it: a name, and behind the name either nothing, a directory, or bytes.
Text is read only from bytes that are valid UTF-8 throughout; a byte order mark is part of it.
-/
namespace Stepper

abbrev Bytes := List UInt8

inductive File.Content where
  | missing
  | directory
  | bytes (content : Bytes)
deriving DecidableEq

structure File where
  name : String
  content : File.Content
deriving DecidableEq

namespace File

inductive Error where
  | notFound
  | isDirectory
  | notText
deriving DecidableEq

def Error.message : Error → String
  | .notFound => "No such file or directory (os error 2)"
  | .isDirectory => "Is a directory (os error 21)"
  | .notText => "stream did not contain valid UTF-8"

def bytes (file : File) : Except Error Bytes :=
  match file.content with
  | .missing => .error .notFound
  | .directory => .error .isDirectory
  | .bytes content => .ok content

def decode (content : Bytes) : Except Error String :=
  match String.fromUTF8? ⟨content.toArray⟩ with
  | some text => .ok text
  | none => .error .notText

def text (file : File) : Except Error String := file.bytes.bind decode

@[simp] theorem bytes_mk (name : String) (content : Bytes) :
    bytes ⟨name, .bytes content⟩ = .ok content := rfl

theorem text_eq_ok_iff {file : File} {text : String} :
    file.text = .ok text ↔ ∃ content, file.bytes = .ok content ∧ decode content = .ok text := by
  unfold File.text
  cases file.bytes <;> simp [Except.bind]

end File
end Stepper
