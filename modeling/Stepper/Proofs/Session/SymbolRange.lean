import Stepper.Proofs.Debugger.Inspecting
import Stepper.Proofs.Machine.Images
import Stepper.Proofs.Session.BreakpointHistory
import Stepper.Proofs.Session.Reloading
import Stepper.Proofs.SymbolTable.Declaring

/-!
Symbols lie in the program. They come and go with it: whatever was done since the last load, the
table is the one that was checked against the extent of that image, so a label never leads out of
memory.
-/
namespace Stepper
open Machine
open WordMachine (capacity HasWord)

namespace Request

variable {σ ε : Type} [Engine σ ε]

/-- The image that a request has loaded, and the machine that it was shown to before. -/
def loaded? (request : Request σ) : Option (σ × Image) :=
  if (request.debugger.perform request.operation : Debugger.Outcome σ ε Answer).result.isOk then
    request.operation.image?.map fun image => (request.debugger.engine, image)
  else none

def lastLoaded? (requests : List (Request σ)) : Option (σ × Image) :=
  (requests.filterMap loaded?).getLast?

theorem lastLoaded?_concat (requests : List (Request σ)) (request : Request σ) :
    lastLoaded? (requests ++ [request]) = request.loaded?.or (lastLoaded? requests) :=
  getLast?_filterMap_concat loaded? requests request

end Request

namespace Debugger

variable {σ ε : Type} [Engine σ ε] {d : Debugger σ}

omit [Engine σ ε] in
theorem result_eq_ok_of_isOk_map {outcome : Outcome σ ε Unit} {f : Unit → Answer}
    (done : (outcome.map f).result.isOk = true) : outcome.result = .ok () := by
  unfold Outcome.map at done
  cases result : outcome.result with
  | error cause =>
    rw [result] at done
    cases done
  | ok _ => rfl

/-- Whatever loads a program loads an image. -/
theorem exists_loadImage {operation : Operation} (kind : operation.kind = .loads)
    (done : (d.perform operation : Outcome σ ε Answer).result.isOk = true) :
    ∃ image symbols, operation.image? = some image ∧
      (d.loadImage image symbols : Outcome σ ε Unit).result = .ok () ∧
      (d.perform operation : Outcome σ ε Answer).debugger =
        (d.loadImage image symbols : Outcome σ ε Unit).debugger := by
  cases operation with
  | loadImage image symbols => exact ⟨image, symbols, rfl, result_eq_ok_of_isOk_map done, rfl⟩
  | load program symbolFile =>
    have loaded := result_eq_ok_of_isOk_map done
    change ∃ image symbols, program.bytes.toOption = some image ∧ _ ∧
      (d.load program symbolFile : Outcome σ ε Unit).debugger = _
    generalize ended : (d.load program symbolFile : Outcome σ ε Unit) = outcome at loaded ⊢
    cases ended ▸ load_cases d program symbolFile with
    | noProgram => cases loaded
    | noSymbols => cases loaded
    | both read listed => exact ⟨_, _, by rw [read]; rfl, loaded, rfl⟩
  | _ => cases kind

theorem symbols_loadImage {image : Image} {symbols : SymbolTable}
    (loaded : (d.loadImage image symbols : Outcome σ ε Unit).result = .ok ()) :
    Fits d.engine image (d.loadImage image symbols : Outcome σ ε Unit).debugger.symbols := by
  generalize ended : (d.loadImage image symbols : Outcome σ ε Unit) = outcome at loaded ⊢
  cases ended ▸ loadImage_cases d image symbols with
  | rejected => cases loaded
  | strayed => cases loaded
  | failed => cases loaded
  | loaded fits => exact fits

/-- A request that loads nothing leaves the symbols alone. -/
theorem symbols_perform_of_unloaded {operation : Operation}
    (unloaded : (Request.mk d operation).loaded? = none) :
    (d.perform operation : Outcome σ ε Answer).debugger.symbols = d.symbols := by
  cases perform_change d operation with
  | looked _ next => rw [next]
  | edited _ _ next => rw [next]
  | executed _ _ _ next => rw [next]
  | written _ _ next => rw [next]
  | refused _ _ _ next => rw [next]
  | loaded kind _ _ done =>
    obtain ⟨image, _, shown, _⟩ := exists_loadImage kind done
    rw [Request.loaded?, if_pos done, shown] at unloaded
    cases unloaded

theorem exists_of_loaded? {operation : Operation} {machine : σ} {image : Image}
    (loaded : (Request.mk d operation).loaded? = some (machine, image)) :
    machine = d.engine ∧ ∃ symbols, (d.loadImage image symbols : Outcome σ ε Unit).result = .ok () ∧
      (d.perform operation : Outcome σ ε Answer).debugger =
        (d.loadImage image symbols : Outcome σ ε Unit).debugger := by
  obtain ⟨done, about⟩ := Option.ite_none_right_eq_some.1 loaded
  obtain ⟨_, shown, same⟩ := Option.map_eq_some_iff.1 about
  rw [Prod.mk.injEq] at same
  obtain ⟨rfl, rfl⟩ := same
  have kind : operation.kind = .loads := by
    cases operation <;> first | rfl | cases shown
  obtain ⟨_, symbols, known, result, next⟩ := exists_loadImage kind done
  rw [shown, Option.some.injEq] at known
  subst known
  exact ⟨rfl, symbols, result, next⟩

/-- The table is empty as long as nothing is loaded, and from then on it fits the last image. -/
def InProgram (d : Debugger σ) : Option (σ × Image) → Prop
  | none => d.symbols = .empty
  | some (machine, image) => Fits machine image d.symbols

theorem InProgram.perform {last : Option (σ × Image)} (within : d.InProgram last)
    (operation : Operation) :
    (d.perform operation : Outcome σ ε Answer).debugger.InProgram
      ((Request.mk d operation).loaded?.or last) := by
  cases loaded : (Request.mk d operation).loaded? with
  | none =>
    rw [Option.none_or]
    unfold InProgram
    rw [symbols_perform_of_unloaded loaded]
    exact within
  | some found =>
    obtain ⟨machine, image⟩ := found
    obtain ⟨rfl, symbols, result, next⟩ := exists_of_loaded? loaded
    rw [next]
    exact symbols_loadImage result

theorem inProgram_performAll (engine : σ) (config : Config) (operations : List Operation) :
    ((ofEngine engine config).performAll operations).InProgram
      (Request.lastLoaded? ((ofEngine engine config).requests operations)) := by
  induction operations using List.reverseRecOn with
  | nil => rfl
  | append_singleton operations last ih =>
    rw [performAll_append, performAll_cons, performAll_nil, requests_concat,
      Request.lastLoaded?_concat]
    exact ih.perform last

omit [Engine σ ε] in
theorem resolve_eq_ok_iff {label : String} {addr : Address} :
    (d.resolve label : Except (Error ε) Address) = .ok addr ↔
      d.symbols.resolve label = some addr := by
  unfold resolve
  cases d.symbols.resolve label <;> simp

section WordMachine

variable {d : Debugger WordMachine} {label : String} {addr : Address}

theorem exists_count_of_fits {machine : WordMachine} {image : Image} {symbols : SymbolTable}
    (fits : Fits machine image symbols) :
    ∃ count, image.length = 4 * count ∧ count ≤ capacity ∧
      ∀ entry ∈ symbols.entries, entry.2.toNat < count := by
  obtain ⟨extent, accepted, inside⟩ := fits
  obtain ⟨count, sized, small, rfl⟩ := WordMachine.exists_count_of_extent accepted
  simp only [WordMachine.contains_wordExtent small] at inside
  exact ⟨count, sized, small, inside⟩

theorem lt_capacity_of_inProgram {last : Option (WordMachine × Image)}
    (within : d.InProgram last) (resolved : d.symbols.resolve label = some addr) :
    addr.toNat < capacity := by
  cases last with
  | none =>
    rw [show d.symbols = .empty from within] at resolved
    cases resolved
  | some loaded =>
    obtain ⟨count, _, small, inside⟩ := exists_count_of_fits within
    exact Nat.lt_of_lt_of_le (inside _ (LabelMap.resolve_eq_some_iff.1 resolved)) small

/-- What a symbol names behind a load is a word of the image. -/
theorem exists_readMemory_of_loadImage {image : Image} {symbols : SymbolTable}
    (loaded : (d.loadImage image symbols).result = .ok ())
    (resolved : (d.loadImage image symbols).debugger.symbols.resolve label = some addr) :
    ∃ word, HasWord image addr.toNat word ∧
      (d.loadImage image symbols).debugger.readMemory addr = .ok word := by
  have fits := symbols_loadImage loaded
  obtain ⟨count, sized, small, inside⟩ := exists_count_of_fits fits
  have below : addr.toNat < count := inside _ (LabelMap.resolve_eq_some_iff.1 resolved)
  have within : addr.toNat < capacity := Nat.lt_of_lt_of_le below small
  have whole : 4 * addr.toNat + 4 ≤ image.length := by omega
  obtain ⟨word, has, found⟩ := WordMachine.exists_word whole
  refine ⟨word, has, ?_⟩
  rw [readMemory_of_lt within, loadImage_ok_debugger loaded, WordMachine.readMemory_start _ within]
  simp [found]

end WordMachine

/-- The first part is about every machine. In the second one a label that resolves never leads out
of memory, and behind a load, of whatever kind, it leads to a word of the image. -/
theorem symbols_lie_in_program :
    (∀ {σ ε : Type} [Engine σ ε] (engine : σ) (config : Config) (operations : List Operation),
      let start := ofEngine engine config
      let d := start.performAll operations
      let last := Request.lastLoaded? (start.requests operations)
      (last = none → d.symbols = .empty) ∧
      (∀ machine image, last = some (machine, image) →
        ∃ extent, Engine.extent machine image = .ok extent ∧
          ∀ entry ∈ d.symbols.entries,
            (extent.start ≤ entry.2 ∧ entry.2 < extent.stop) ∧
            (d.resolve entry.1 : Except (Error ε) Address) = .ok entry.2)) ∧
    (∀ (engine : WordMachine) (config : Config) (operations : List Operation),
      let d := (ofEngine engine config).performAll operations
      (∀ label addr, (d.resolve label : Except (Error WordMachine.Fault) Address) = .ok addr →
        (∃ word, d.readMemory addr = .ok word) ∧
        ∀ value, (d.writeMemory addr value).result = .ok ()) ∧
      (∀ operation machine image, (Request.mk d operation).loaded? = some (machine, image) →
        let next := (d.perform operation).debugger
        ∀ label addr, (next.resolve label : Except (Error WordMachine.Fault) Address) = .ok addr →
          ∃ word, HasWord image addr.toNat word ∧ next.readMemory addr = .ok word)) := by
  refine ⟨?_, ?_⟩
  · intro σ ε _ engine config operations start d last
    have within : d.InProgram last := inProgram_performAll engine config operations
    refine ⟨fun unloaded => ?_, fun machine image loaded => ?_⟩
    · rw [unloaded] at within
      exact within
    · rw [loaded] at within
      obtain ⟨extent, accepted, inside⟩ := within
      refine ⟨extent, accepted, fun entry held => ⟨Extent.contains_iff.1 (inside entry held), ?_⟩⟩
      exact resolve_eq_ok_iff.2 (LabelMap.resolve_eq_some_iff.2 held)
  · intro engine config operations d
    have within : d.InProgram _ := inProgram_performAll engine config operations
    refine ⟨fun label addr resolved => ?_, fun operation machine image loaded => ?_⟩
    · have below := lt_capacity_of_inProgram within (resolve_eq_ok_iff.1 resolved)
      exact ⟨⟨_, readMemory_of_lt below⟩, writeMemory_of_lt below⟩
    · intro next label addr resolved
      obtain ⟨_, symbols, done, same⟩ := exists_of_loaded? loaded
      have behind : next = (d.loadImage image symbols).debugger := same
      rw [behind] at resolved ⊢
      exact exists_readMemory_of_loadImage done (resolve_eq_ok_iff.1 resolved)

/-- A symbol of a program that has been run up to it, and of a load that is to follow. -/
theorem symbol_at_breakpoint_lies_in_program :
    let start := ofEngine (WordMachine.start []) ⟨5⟩
    let image : Image := [0, 0, 0, 1, 0, 0, 0, 0]
    let symbols := (SymbolTable.ofPairs [("end", 1)]).value
    let operations : List Operation :=
      [.loadImage image symbols, .setBreakpoint (.label "end"), .run]
    let d := start.performAll operations
    let next := (d.perform (.loadImage image symbols)).debugger
    d.status = .breakpointHit ∧
      (d.resolve "end" : Except (Error WordMachine.Fault) Address) = .ok 1 ∧
      (∃ extent, WordMachine.extent image = .ok extent ∧ extent.start ≤ 1 ∧ 1 < extent.stop) ∧
      (∃ word, d.readMemory 1 = .ok word) ∧ (d.writeMemory 1 9).result = .ok () ∧
      ∃ word, HasWord image 1 word ∧ next.readMemory 1 = .ok word := by
  intro start image symbols operations d next
  obtain ⟨every, stub⟩ := symbols_lie_in_program
  obtain ⟨-, inside⟩ := every (WordMachine.start []) ⟨5⟩ operations
  obtain ⟨named, read⟩ := stub (WordMachine.start []) ⟨5⟩ operations
  have resolved : (d.resolve "end" : Except (Error WordMachine.Fault) Address) = .ok 1 :=
    resolve_eq_ok_iff.2 (by decide +kernel)
  have resolvedNext : (next.resolve "end" : Except (Error WordMachine.Fault) Address) = .ok 1 :=
    resolve_eq_ok_iff.2 (by decide +kernel)
  obtain ⟨word, write⟩ := named "end" 1 resolved
  have loaded : Request.lastLoaded? (start.requests operations) =
      some (WordMachine.start [], image) := by decide +kernel
  have loadedNext : (Request.mk d (.loadImage image symbols)).loaded? =
      some (d.engine, image) := by decide +kernel
  obtain ⟨extent, accepted, held⟩ := inside _ image loaded
  have bounds := (held ("end", 1) (by decide +kernel)).1
  exact ⟨by decide +kernel, resolved, ⟨extent, accepted, bounds⟩, word, write 9,
    read (.loadImage image symbols) _ image loadedNext "end" 1 resolvedNext⟩

end Debugger
end Stepper
