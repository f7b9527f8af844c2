import Stepper.Proofs.Session.Frame

/-!
Loading a program starts a session anew. Over a machine that loads afresh nothing of what was done
before comes through, neither into the answer nor into the debugger: only the settings stay, and
nothing ever changes these.
-/
namespace Stepper.Debugger
open Machine

section Afresh

variable {σ ε : Type} [Engine σ ε]

/-- What the operations of a sequence come to, one after the other. -/
def outcomes (d : Debugger σ) : List Operation → List (Outcome σ ε Answer)
  | [] => []
  | operation :: rest =>
    d.perform operation :: (d.perform operation : Outcome σ ε Answer).debugger.outcomes rest

theorem outcomes_append (d : Debugger σ) (front back : List Operation) :
    (d.outcomes (front ++ back) : List (Outcome σ ε Answer)) =
      d.outcomes front ++ (d.performAll front).outcomes back := by
  induction front generalizing d with
  | nil => rfl
  | cons operation rest ih => rw [List.cons_append, outcomes, ih, outcomes, performAll_cons]; rfl

theorem length_outcomes (d : Debugger σ) (operations : List Operation) :
    (d.outcomes operations : List (Outcome σ ε Answer)).length = operations.length := by
  induction operations generalizing d with
  | nil => rfl
  | cons operation rest ih => rw [outcomes, List.length_cons, ih, List.length_cons]

/-- Two debuggers that agree in their settings load alike. -/
theorem loadImage_afresh (law : LoadsAfresh σ) {d other : Debugger σ}
    (settings : d.config = other.config) (image : Image) (symbols : SymbolTable) :
    (d.loadImage image symbols : Outcome σ ε Unit).result = (other.loadImage image symbols).result ∧
      ((d.loadImage image symbols : Outcome σ ε Unit).result = .ok () →
        (d.loadImage image symbols : Outcome σ ε Unit).debugger =
          (other.loadImage image symbols).debugger) := by
  unfold loadImage
  rw [law.extent d.engine other.engine image]
  cases Engine.extent other.engine image with
  | error fault => exact ⟨rfl, fun loaded => by cases loaded⟩
  | ok extent =>
    dsimp only
    cases strayed? symbols extent with
    | some outside => exact ⟨rfl, fun loaded => by cases loaded⟩
    | none =>
      have answer := law.answer d.engine other.engine image
      have machine := law.machine d.engine other.engine image
      generalize Engine.load d.engine image = used at answer machine ⊢
      generalize Engine.load other.engine image = fresh at answer machine ⊢
      obtain ⟨fault | occupied, engine⟩ := used
      · obtain ⟨_, otherEngine⟩ := fresh
        cases answer
        exact ⟨rfl, fun loaded => by cases loaded⟩
      · obtain ⟨_, otherEngine⟩ := fresh
        cases answer
        have same : engine = otherEngine := machine occupied rfl
        refine ⟨rfl, fun _ => ?_⟩
        simp only [withProgram, same, settings]

end Afresh

theorem loadImage_ok_debugger {d : Debugger WordMachine} {image : Image} {symbols : SymbolTable}
    (loaded : (d.loadImage image symbols).result = .ok ()) :
    (d.loadImage image symbols).debugger =
      { engine := .start (WordMachine.words image)
        config := d.config
        symbols := symbols
        breakpoints := .empty
        status := .ready } := by
  generalize ended : d.loadImage image symbols = outcome at loaded ⊢
  cases ended ▸ loadImage_cases d image symbols with
  | rejected => cases loaded
  | strayed => cases loaded
  | failed => cases loaded
  | loaded _ answer =>
    rw [wordMachine_load_snd answer]
    rfl

/-- What execution starts with behind a load. -/
theorem loadImage_ok_starts {d : Debugger WordMachine} {image : Image} {symbols : SymbolTable}
    (loaded : (d.loadImage image symbols).result = .ok ()) :
    let started := (d.loadImage image symbols).debugger
    started.engine = .start (WordMachine.words image) ∧ started.config = d.config ∧
      started.breakpoints = .empty ∧ started.status = .ready := by
  rw [loadImage_ok_debugger loaded]
  exact ⟨rfl, rfl, rfl, rfl⟩

/-- After a load neither the debugger nor any later operation tells what came before it. -/
theorem load_erases_history :
    (∀ {σ ε : Type} [Engine σ ε], LoadsAfresh σ →
      ∀ (machine other : σ) (config : Config) (earlier : List Operation) (image : Image)
        (symbols : SymbolTable),
        let used : Outcome σ ε Unit :=
          ((ofEngine machine config).performAll earlier).loadImage image symbols
        let fresh : Outcome σ ε Unit := (ofEngine other config).loadImage image symbols
        used.result = fresh.result ∧ (used.result = .ok () → used.debugger = fresh.debugger)) ∧
    (∀ (machine other : WordMachine) (config : Config) (earlier : List Operation) (image : Image)
      (symbols : SymbolTable),
      let used := ((ofEngine machine config).performAll earlier).loadImage image symbols
      let fresh := (ofEngine other config).loadImage image symbols
      used.result = fresh.result ∧
        (used.result = .ok () →
          used.debugger =
            { engine := .start (WordMachine.words image)
              config := config
              symbols := symbols
              breakpoints := .empty
              status := .ready } ∧
          used.debugger = fresh.debugger ∧
          ∀ later, used.debugger.outcomes later = fresh.debugger.outcomes later)) := by
  refine ⟨?_, ?_⟩
  · intro σ ε _ law machine other config earlier image symbols
    have settings : ((ofEngine machine config).performAll earlier).config =
        (ofEngine other config).config := config_performAll _ earlier
    exact loadImage_afresh law settings image symbols
  · intro machine other config earlier image symbols used fresh
    have settings : ((ofEngine machine config).performAll earlier).config =
        (ofEngine other config).config := config_performAll _ earlier
    obtain ⟨result, debugger⟩ := loadImage_afresh wordMachine_loadsAfresh settings image symbols
    refine ⟨result, fun loaded => ⟨?_, debugger loaded, fun later => ?_⟩⟩
    · have started := loadImage_ok_debugger loaded
      rw [settings] at started
      exact started
    · exact congrArg (outcomes · later) (debugger loaded)

/-- A debugger stopped at a breakpoint of its own is loaded like one that has done nothing. -/
theorem load_behind_breakpoint_is_fresh :
    let image : Image := [0, 0, 0, 1, 0, 0, 0, 0]
    let symbols := (SymbolTable.ofPairs [("end", 1)]).value
    let earlier : List Operation :=
      [.loadImage image .empty, .setBreakpoint (.address 1), .writeRegister "r0" 7, .run]
    let before := (ofEngine (WordMachine.start []) ⟨5⟩).performAll earlier
    let used := before.loadImage image symbols
    let fresh := (ofEngine (WordMachine.start [0]) ⟨5⟩).loadImage image symbols
    before.status = .breakpointHit ∧ before.breakpoints.contains 1 = true ∧
      used.result = .ok () ∧ used.debugger.symbols.resolve "end" = some 1 ∧
      used.debugger = fresh.debugger ∧
      used.debugger.outcomes [.run, .symbolize 1] =
        fresh.debugger.outcomes [.run, .symbolize 1] := by
  intro image symbols earlier before used fresh
  obtain ⟨-, erases⟩ := load_erases_history
  obtain ⟨agrees, same⟩ :=
    erases (WordMachine.start []) (WordMachine.start [0]) ⟨5⟩ earlier image symbols
  have anew : fresh.result = .ok () := by
    have done : fresh.result.isOk = true := by decide +kernel
    cases answer : fresh.result with
    | ok _ => rfl
    | error cause =>
      rw [answer] at done
      cases done
  have loaded : used.result = .ok () := agrees.trans anew
  obtain ⟨-, debugger, outcomes⟩ := same loaded
  exact ⟨by decide +kernel, by decide +kernel, loaded, by decide +kernel, debugger,
    outcomes [.run, .symbolize 1]⟩

end Stepper.Debugger
