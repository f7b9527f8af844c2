import Stepper.Engine

/-!
A machine without instructions. It plays back a tape: every step takes the next cue, which may set
the program counter, halt or wake the machine, and end in a fault. It can also be told to refuse
certain loads, so it shows a debugger states that a real machine seldom reaches.
-/
namespace Stepper

namespace Playback

inductive Fault where
  | tooLarge (size limit : Nat)
  | loadRefused
  | exhausted
  | scripted (message : String)
deriving DecidableEq

def Fault.message : Fault → String
  | .tooLarge size limit =>
    s!"image of {Numeral.decimal size} bytes exceeds {Numeral.decimal limit}"
  | .loadRefused => "load refused"
  | .exhausted => "script exhausted"
  | .scripted text => text

instance : ToString Fault := ⟨Fault.message⟩

/-- One step of the tape; what is absent stays as it is. -/
structure Cue where
  pc : Option Address
  halted : Option Bool
  fault : Option String

structure Tape where
  /-- The address of the first byte of an image; every byte has an address of its own. -/
  base : Address
  /-- The greatest size of an image. -/
  sizeLimit : Nat
  memorySize : Word
  /-- Of registers with one name, all but the first are out of reach. -/
  registerNames : List String
  /-- Where a program starts, if not at `base`. -/
  entry : Option Address
  haltOnLoad : Bool
  /-- The numbers of the loads to refuse, counted from zero among those of acceptable size. -/
  refusedLoads : List Nat
  /-- What a load reports to be occupied, if not what the size of the image says. -/
  loadExtent : Option Extent
  cues : List Cue

end Playback

structure Playback where
  tape : Playback.Tape
  /-- The cues that have not been played since the last load. -/
  remaining : List Playback.Cue
  pc : Address
  halted : Bool
  /-- One value per name of the tape. -/
  registers : List Word
  /-- The words written, in ascending order of address; all others are zero. -/
  memory : List (Address × Word)
  /-- The number of loads of acceptable size. -/
  loads : Nat

namespace Playback

def ofTape (tape : Tape) : Playback where
  tape := tape
  remaining := tape.cues
  pc := 0
  halted := false
  registers := tape.registerNames.map fun _ => 0
  memory := []
  loads := 0

/-- The address `offset` bytes behind another one, or the last address if there is none. -/
def addressBehind (addr : Address) (offset : Nat) : Address :=
  (Address.ofNat? (addr.toNat + offset)).getD 0xFFFFFFFF

def extent (p : Playback) (image : Image) : Except Fault Extent :=
  let size := image.length
  if p.tape.sizeLimit < size then .error (.tooLarge size p.tape.sizeLimit)
  else .ok ⟨p.tape.base, addressBehind p.tape.base size⟩

def load (p : Playback) (image : Image) : Except Fault Extent × Playback :=
  match p.extent image with
  | .error fault => (.error fault, p)
  | .ok occupied =>
    if p.tape.refusedLoads.contains p.loads then
      (.error .loadRefused, { p with loads := p.loads + 1 })
    else
      (.ok (p.tape.loadExtent.getD occupied),
        { ofTape p.tape with
          pc := p.tape.entry.getD p.tape.base
          halted := p.tape.haltOnLoad
          loads := p.loads + 1 })

def advance (p : Playback) : Except Fault Unit × Playback :=
  match p.remaining with
  | [] => (.error .exhausted, p)
  | cue :: rest =>
    let next := { p with
      remaining := rest
      pc := cue.pc.getD p.pc
      halted := cue.halted.getD p.halted }
    match cue.fault with
    | none => (.ok (), next)
    | some text => (.error (.scripted text), next)

/-- The number of cues played since the last load. -/
def played (p : Playback) : Nat := p.tape.cues.length - p.remaining.length

def readRegister (p : Playback) (name : String) : Word :=
  ((p.tape.registerNames.zip p.registers).lookup name).getD 0

def writeRegister (p : Playback) (name : String) (value : Word) : Playback :=
  { p with registers := p.registers.set (p.tape.registerNames.idxOf name) value }

def write (addr : Address) (value : Word) : List (Address × Word) → List (Address × Word)
  | [] => [(addr, value)]
  | slot :: rest =>
    if addr < slot.1 then (addr, value) :: slot :: rest
    else if addr = slot.1 then (addr, value) :: rest
    else slot :: write addr value rest

instance : Engine Playback Fault where
  extent := extent
  load := load
  advance := advance
  isHalted := halted
  pc := pc
  hasRegister p name := p.tape.registerNames.contains name
  readRegister := readRegister
  writeRegister := writeRegister
  memorySize p := p.tape.memorySize
  readMemory p addr := (p.memory.lookup addr).getD 0
  writeMemory p addr value := { p with memory := write addr value p.memory }

/-- The words of memory that are not zero, in ascending order of address. -/
def nonzeroWords (p : Playback) : List (Address × Word) := p.memory.filter fun slot => slot.2 ≠ 0

end Playback
end Stepper
