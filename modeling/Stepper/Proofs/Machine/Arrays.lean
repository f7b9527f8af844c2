import Stepper.Proofs.Machine.Cells
import Stepper.Proofs.Machine.Encoding
import Stepper.Proofs.Machine.Fetching
import Stepper.Proofs.Machine.Laws
import Stepper.Proofs.Machine.Recorded

/-!
The word machine over plain arrays. Their lengths are no part of their type, so each access may
miss, and a program counter may become too large for an address; then the machine breaks and there
is no next one. Where it does not break it does as the word machine does.
-/
namespace Stepper
open WordMachine

structure ArrayMachine where
  memory : Array Word
  registers : Array Word
  pc : Address
  halted : Bool
  steps : UInt64
deriving DecidableEq

namespace ArrayMachine

/-- A machine that has just been built. -/
def idle : ArrayMachine where
  memory := .replicate 64 0
  registers := .replicate 4 0
  pc := 0
  halted := false
  steps := 0

def put? (values : Array Word) (place : Nat) (value : Word) : Option (Array Word) :=
  if h : place < values.size then some (values.set place value) else none

/-- Puts words into places that follow one another. -/
def putAll? (values : Array Word) (place : Nat) : List Word → Option (Array Word)
  | [] => some values
  | first :: rest => (put? values place first).bind fun values => putAll? values (place + 1) rest

/-- The address behind another one. -/
def behind? (addr : Address) : Option Address := Address.ofNat? (addr.toNat + 1)

def load? (m : ArrayMachine) (image : Image) : Option (Except Fault Extent × ArrayMachine) :=
  match extent image with
  | .error fault => some (.error fault, m)
  | .ok occupied =>
    (putAll? idle.memory 0 (words image)).map fun memory =>
      (.ok occupied, { idle with memory := memory })

/-- What an instruction does, apart from being counted. -/
def execute? (m : ArrayMachine) : Instruction → Option (Except Fault ArrayMachine)
  | .halt => some (.ok { m with halted := true })
  | .nop => do
    let pc ← behind? m.pc
    some (.ok { m with pc := pc })
  | .increment r => do
    let value ← m.registers[r.val]?
    let registers ← put? m.registers r (value + 1)
    let pc ← behind? m.pc
    some (.ok { m with registers := registers, pc := pc })
  | .jump target => some (.ok { m with pc := target })
  | .store r slot =>
    if slot.toNat < m.memory.size then do
      let value ← m.registers[r.val]?
      let memory ← put? m.memory slot.toNat value
      let pc ← behind? m.pc
      some (.ok { m with memory := memory, pc := pc })
    else some (.error (.illegalOpcode storeOpcode m.pc))
  | .illegal code => some (.error (.illegalOpcode code m.pc))

/-- A program counter outside of memory is no miss, since the machine looks before it fetches. -/
def advance? (m : ArrayMachine) : Option (Except Fault Unit × ArrayMachine) :=
  match m.memory[m.pc.toNat]? with
  | none => some (.error (.pcOutOfBounds m.pc), m)
  | some word =>
    (m.execute? (.decode word)).map fun
      | .ok next => (.ok (), { next with steps := next.steps + 1 })
      | .error fault => (.error fault, m)

def read? (m : ArrayMachine) : Cell → Option Word
  | .register name =>
    match registerIndex? name with
    | some r => m.registers[r.val]?
    | none => some 0
  | .memory addr => m.memory[addr.toNat]?

def write? (m : ArrayMachine) (value : Word) : Cell → Option ArrayMachine
  | .register name =>
    match registerIndex? name with
    | some r => (put? m.registers r value).map fun registers => { m with registers := registers }
    | none => some m
  | .memory addr =>
    (put? m.memory addr.toNat value).map fun memory => { m with memory := memory }

def obey? (m : ArrayMachine) : Command → Option ArrayMachine
  | .load image => (m.load? image).map Prod.snd
  | .advance => m.advance?.map Prod.snd
  | .writeRegister name value => m.write? value (.register name)
  | .writeMemory addr value => m.write? value (.memory addr)
  | .readRegister name => (m.read? (.register name)).map fun _ => m
  | .readMemory addr => (m.read? (.memory addr)).map fun _ => m

def obeyAll? (m : ArrayMachine) (commands : List Command) : Option ArrayMachine :=
  commands.foldlM obey? m

theorem obeyAll?_concat (m : ArrayMachine) (commands : List Command) (last : Command) :
    m.obeyAll? (commands ++ [last]) = (m.obeyAll? commands).bind fun next => next.obey? last := by
  rw [obeyAll?, List.foldlM_append, obeyAll?]
  apply congrArg (Option.bind _)
  funext next
  exact bind_pure (next.obey? last)

theorem put?_of_lt {values : Array Word} {place : Nat} (within : place < values.size)
    (value : Word) : put? values place value = some (values.set place value) :=
  dif_pos within

theorem putAll?_append (front back : List Word) {old words : List Word}
    (same : old.length = words.length) :
    putAll? (front ++ (old ++ back)).toArray front.length words =
      some (front ++ (words ++ back)).toArray := by
  induction words generalizing front old with
  | nil =>
    rw [List.length_eq_zero_iff.1 same]
    rfl
  | cons first rest ih =>
    match old, same with
    | other :: old, same =>
      have within : front.length < (front ++ (other :: old ++ back)).toArray.size := by
        simp
      have later := ih (front ++ [first]) (Nat.succ.inj same)
      rw [putAll?, put?_of_lt within]
      simpa using later

end ArrayMachine

namespace WordMachine

/-- The same machine over plain arrays. -/
def arrays (m : WordMachine) : ArrayMachine :=
  ⟨m.memory.toArray, m.registers.toArray, m.pc, m.halted, m.steps⟩

theorem arrays_start_nil : (start []).arrays = .idle := by
  decide +kernel

theorem behind?_of_lt {addr : Address} (within : addr.toNat < capacity) :
    ArrayMachine.behind? addr = some (addr + 1) :=
  Address.ofNat?_eq_some_iff.2 (toNat_add_one_of_lt within)

variable (m : WordMachine)

theorem execute?_arrays (within : m.pc.toNat < capacity) (instruction : Instruction) :
    m.arrays.execute? instruction = some ((m.execute instruction).map arrays) := by
  have next := behind?_of_lt within
  cases instruction with
  | halt | jump | illegal => rfl
  | nop => simp [ArrayMachine.execute?, execute, Except.map, arrays, next]
  | increment r =>
    simp [ArrayMachine.execute?, ArrayMachine.put?, execute, Except.map, arrays, next]
  | store r slot =>
    by_cases held : slot.toNat < capacity
    · simp [ArrayMachine.execute?, ArrayMachine.put?, execute, Except.map, arrays, next, held]
    · simp [ArrayMachine.execute?, execute, Except.map, arrays, held]

theorem advance?_arrays :
    m.arrays.advance? = some ((Engine.advance m).1, (Engine.advance m).2.arrays) := by
  have same : m.arrays.memory[m.arrays.pc.toNat]? = m.memory[m.pc.toNat]? :=
    Vector.getElem?_toArray
  cases found : m.memory[m.pc.toNat]? with
  | none =>
    have outside := fetch_of_outside (Vector.getElem?_eq_none_iff.1 found)
    have refused : m.fetch.bind m.execute = .error (.pcOutOfBounds m.pc) := by
      rw [outside]
      rfl
    rw [advance_of_fault refused, ArrayMachine.advance?, same, found]
    rfl
  | some word =>
    have within := (Vector.getElem?_eq_some_iff.1 found).1
    rw [ArrayMachine.advance?, same, found]
    dsimp only
    rw [execute?_arrays m within]
    have fetched := fetch_of_word found
    cases done : m.execute (.decode word) with
    | ok next =>
      rw [advance_of_execute fetched done]
      rfl
    | error fault =>
      have refused : m.fetch.bind m.execute = .error fault := by
        rw [fetched]
        exact done
      rw [advance_of_fault refused]
      rfl

theorem toArray_memory_start {program : List Word} (fits : program.length ≤ capacity) :
    (start program).memory.toArray =
      (program ++ List.replicate (capacity - program.length) 0).toArray := by
  apply Array.ext
  · simp
    omega
  · intro i within _
    have inside : i < capacity := by simpa using within
    rcases Nat.lt_or_ge i program.length with held | beyond
    · simp [start, held]
    · simp [start, List.getElem_append_right, beyond]

theorem putAll?_idle {program : List Word} (fits : program.length ≤ capacity) :
    ArrayMachine.putAll? ArrayMachine.idle.memory 0 program =
      some (start program).memory.toArray := by
  have blank : ArrayMachine.idle.memory = (List.replicate program.length (0 : Word) ++
      List.replicate (capacity - program.length) 0).toArray := by
    rw [List.replicate_append_replicate, Nat.add_sub_of_le fits]
    rfl
  rw [blank, toArray_memory_start fits]
  exact ArrayMachine.putAll?_append [] _ List.length_replicate

theorem load?_arrays (image : Image) :
    m.arrays.load? image = some ((Engine.load m image).1, (Engine.load m image).2.arrays) := by
  change _ = some ((m.load image).1, (m.load image).2.arrays)
  unfold ArrayMachine.load? load
  cases accepted : extent image with
  | error fault => rfl
  | ok occupied =>
    obtain ⟨count, sized, fits, -⟩ := exists_count_of_extent accepted
    have whole := length_words ⟨count, sized⟩
    have counted : (words image).length ≤ capacity := by omega
    dsimp only
    rw [putAll?_idle counted]
    rfl

section Cells

variable {m} {cell : Cell}

theorem read?_arrays (present : cell.Exists) : m.arrays.read? cell = some (m.get cell) := by
  cases cell with
  | register name =>
    obtain ⟨r, found⟩ := Option.isSome_iff_exists.1 (isSome_registerIndex?_iff.2 present)
    simp [ArrayMachine.read?, arrays, get, readRegister, found]
  | memory addr =>
    have within : addr.toNat < capacity := present
    simp [ArrayMachine.read?, arrays, get, readMemory, readMemory?, within]

theorem write?_arrays (present : cell.Exists) (value : Word) :
    m.arrays.write? value cell = some (m.put cell value).arrays := by
  cases cell with
  | register name =>
    obtain ⟨r, found⟩ := Option.isSome_iff_exists.1 (isSome_registerIndex?_iff.2 present)
    simp [ArrayMachine.write?, ArrayMachine.put?, arrays, put, writeRegister, found]
  | memory addr =>
    have within : addr.toNat < capacity := present
    simp [ArrayMachine.write?, ArrayMachine.put?, arrays, put, writeMemory, within,
      Array.setIfInBounds]

/-- Reads of the machine over plain arrays in place of the machine. -/
def arrayReads : Reads WordMachine Option where
  register m name := m.arrays.read? (.register name)
  memory m addr := m.arrays.read? (.memory addr)

theorem arrayReads_answersInUse : Machine.AnswersInUse arrayReads where
  register := by
    intro machine name known
    have present : (Cell.register name).Exists := isSome_registerIndex?_iff.1 known
    exact read?_arrays present
  memory := by
    intro machine addr within
    have present : (Cell.memory addr).Exists := within
    exact read?_arrays present

end Cells

end WordMachine
end Stepper
