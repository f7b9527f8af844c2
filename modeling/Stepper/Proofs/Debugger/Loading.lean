import Stepper.Debugger.Load
import Stepper.Proofs.Machine.Laws
import Stepper.Proofs.Machine.Recorded

/-!
Loading has a single way to succeed, and every way to fail comes before the debugger changes. The
machine is asked to load only what fits it; from there on it answers for its own state.
-/
namespace Stepper.Debugger
open Machine

variable {σ ε : Type} [Engine σ ε]

/-- The machine accepts the image, and all symbols are addresses that the image would occupy. -/
def Fits (machine : σ) (image : Image) (symbols : SymbolTable) : Prop :=
  ∃ extent, Engine.extent machine image = .ok extent ∧
    ∀ entry ∈ symbols.entries, extent.contains entry.2 = true

/-- The four ways in which loading an image may end. -/
inductive ImageLoad (d : Debugger σ) (image : Image) (symbols : SymbolTable) :
    Outcome σ ε Unit → Prop where
  | rejected {fault : ε} (refused : Engine.extent d.engine image = .error fault) :
    ImageLoad d image symbols
      ⟨.error (.load (.image fault)), d, [.span (.load image.length) []]⟩
  | strayed {extent : Extent} {label : String} {addr : Address}
    (accepted : Engine.extent d.engine image = .ok extent)
    (outside : strayed? symbols extent = some (label, addr)) :
    ImageLoad d image symbols
      ⟨.error (.load (.symbolOutOfRange label addr)), d, [.span (.load image.length) []]⟩
  | failed {fault : ε} (fits : Fits d.engine image symbols)
    (failed : (Engine.load d.engine image).1 = .error fault) :
    ImageLoad d image symbols
      ⟨.error (.load (.image fault)), { d with engine := (Engine.load d.engine image).2 },
        [.span (.load image.length) []]⟩
  | loaded {occupied : Extent} (fits : Fits d.engine image symbols)
    (loaded : (Engine.load d.engine image).1 = .ok occupied) :
    ImageLoad d image symbols
      ⟨.ok (), d.withProgram (Engine.load d.engine image).2 symbols,
        [.span (.load image.length)
          [.event (.loaded occupied symbols.size d.breakpoints.size)]]⟩

theorem loadImage_cases (d : Debugger σ) (image : Image) (symbols : SymbolTable) :
    ImageLoad d image symbols (d.loadImage image symbols) := by
  unfold loadImage
  dsimp only
  split
  · next fault refused => exact .rejected refused
  · next extent accepted =>
    split
    · next label addr outside => exact .strayed accepted outside
    · next within =>
      have fits : Fits d.engine image symbols := ⟨extent, accepted, strayed?_eq_none_iff.1 within⟩
      split
      · next fault engine failed =>
        have ends := ImageLoad.failed (ε := ε) fits (congrArg Prod.fst failed)
        rw [failed] at ends
        exact ends
      · next occupied engine loaded =>
        have ends := ImageLoad.loaded (ε := ε) fits (congrArg Prod.fst loaded)
        rw [loaded] at ends
        exact ends

inductive FileLoad (d : Debugger σ) (program symbolFile : File) : Outcome σ ε Unit → Prop where
  | noProgram {cause : File.Error} (unread : program.bytes = .error cause) :
    FileLoad d program symbolFile ⟨.error (.load (.file program.name cause)), d, []⟩
  | noSymbols {image : Image} {cause : SymbolTable.Error} (read : program.bytes = .ok image)
    (unread : (SymbolTable.ofFile symbolFile).value = .error cause) :
    FileLoad d program symbolFile
      ⟨.error (.load (.symbols cause)), d, (SymbolTable.ofFile symbolFile).trace⟩
  | both {image : Image} {symbols : SymbolTable} (read : program.bytes = .ok image)
    (listed : (SymbolTable.ofFile symbolFile).value = .ok symbols) :
    FileLoad d program symbolFile
      { d.loadImage image symbols with
        trace := (SymbolTable.ofFile symbolFile).trace ++ (d.loadImage image symbols).trace }

theorem load_cases (d : Debugger σ) (program symbolFile : File) :
    FileLoad d program symbolFile (d.load program symbolFile) := by
  unfold load
  split
  · next cause unread => exact .noProgram unread
  · next image read =>
    dsimp only
    split
    · next cause unread => exact .noSymbols read unread
    · next symbols listed => exact .both read listed

/-- If loading fails, all but the machine is as it was, and the machine is too if it obeys the law
of failed loads. -/
def Spares (d : Debugger σ) (outcome : Outcome σ ε Unit) : Prop :=
  ∀ cause, outcome.result = .error cause →
    outcome.debugger.symbols = d.symbols ∧ outcome.debugger.breakpoints = d.breakpoints ∧
      outcome.debugger.status = d.status ∧ outcome.debugger.config = d.config ∧
      (FailedLoadKeeps σ → outcome.debugger = d)

theorem ImageLoad.spares {d : Debugger σ} {image : Image} {symbols : SymbolTable}
    {outcome : Outcome σ ε Unit} (ends : ImageLoad d image symbols outcome) : d.Spares outcome := by
  intro cause refused
  cases ends with
  | rejected => exact ⟨rfl, rfl, rfl, rfl, fun _ => rfl⟩
  | strayed => exact ⟨rfl, rfl, rfl, rfl, fun _ => rfl⟩
  | failed fits failed =>
    refine ⟨rfl, rfl, rfl, rfl, fun keeps => ?_⟩
    rw [keeps _ _ _ failed]
  | loaded => cases refused

theorem loadImage_spares (d : Debugger σ) (image : Image) (symbols : SymbolTable) :
    d.Spares (d.loadImage image symbols) :=
  (loadImage_cases d image symbols).spares

theorem FileLoad.spares {d : Debugger σ} {program symbolFile : File} {outcome : Outcome σ ε Unit}
    (ends : FileLoad d program symbolFile outcome) : d.Spares outcome := by
  intro cause refused
  cases ends with
  | noProgram => exact ⟨rfl, rfl, rfl, rfl, fun _ => rfl⟩
  | noSymbols => exact ⟨rfl, rfl, rfl, rfl, fun _ => rfl⟩
  | both => exact loadImage_spares d _ _ cause refused

/-- The machine is asked to load this image at most once, and only if it fits. -/
def AsksWhatFits (machine : σ) (image : Image) (symbols : SymbolTable) (calls : List (Call σ)) :
    Prop :=
  calls = [] ∨ calls = [⟨.load image, machine⟩] ∧ Fits machine image symbols

theorem ImageLoad.asksWhatFits {d : Debugger σ} {image : Image} {symbols : SymbolTable}
    {outcome : Outcome (Recorded σ) ε Unit} (ends : ImageLoad d.recording image symbols outcome) :
    AsksWhatFits d.engine image symbols outcome.calls := by
  cases ends with
  | rejected => exact .inl rfl
  | strayed => exact .inl rfl
  | failed fits => exact .inr ⟨rfl, fits⟩
  | loaded fits => exact .inr ⟨rfl, fits⟩

theorem FileLoad.asksWhatFits {d : Debugger σ} {program symbolFile : File}
    {outcome : Outcome (Recorded σ) ε Unit}
    (ends : FileLoad d.recording program symbolFile outcome) :
    outcome.calls = [] ∨ ∃ image symbols, program.bytes = .ok image ∧
      (SymbolTable.ofFile symbolFile).value = .ok symbols ∧
      AsksWhatFits d.engine image symbols outcome.calls := by
  cases ends with
  | noProgram => exact .inl rfl
  | noSymbols => exact .inl rfl
  | both read listed =>
    exact .inr ⟨_, _, read, listed, (loadImage_cases d.recording _ _).asksWhatFits⟩

theorem load_all_or_nothing :
    (∀ {σ ε : Type} [Engine σ ε] (d : Debugger σ),
      (∀ image symbols, d.Spares (d.loadImage image symbols) ∧
        AsksWhatFits d.engine image symbols
          (d.recording.loadImage image symbols : Outcome (Recorded σ) ε Unit).calls) ∧
      (∀ program symbolFile, d.Spares (d.load program symbolFile) ∧
        ((d.recording.load program symbolFile : Outcome (Recorded σ) ε Unit).calls = [] ∨
          ∃ image symbols, program.bytes = .ok image ∧
            (SymbolTable.ofFile symbolFile).value = .ok symbols ∧
            AsksWhatFits d.engine image symbols
              (d.recording.load program symbolFile : Outcome (Recorded σ) ε Unit).calls))) ∧
    (∀ d : Debugger WordMachine,
      (∀ image symbols cause, (d.loadImage image symbols).result = .error cause →
        (d.loadImage image symbols).debugger = d) ∧
      (∀ program symbolFile cause, (d.load program symbolFile).result = .error cause →
        (d.load program symbolFile).debugger = d)) := by
  refine ⟨fun d => ⟨fun image symbols => ?_, fun program symbolFile => ?_⟩,
    fun d => ⟨fun image symbols cause refused => ?_, fun program symbolFile cause refused => ?_⟩⟩
  · exact ⟨loadImage_spares d image symbols, (loadImage_cases _ _ _).asksWhatFits⟩
  · exact ⟨(load_cases _ _ _).spares, (load_cases _ _ _).asksWhatFits⟩
  · have spared := loadImage_spares d image symbols cause refused
    exact spared.2.2.2.2 wordMachine_failedLoadKeeps
  · have spared := (load_cases d program symbolFile).spares cause refused
    exact spared.2.2.2.2 wordMachine_failedLoadKeeps

end Stepper.Debugger
