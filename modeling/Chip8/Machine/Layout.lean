import Chip8.Grid.Cells
import Chip8.Machine.Request
import Chip8.Memory.Bytes

/-! A machine as it lies in a host.

    Its memory is bytes in a row and its screen words in a row, and nothing in their types says how
    many there are or what the words may be. What is asked of a machine is done to them here, step
    by step, and the host stops (`none`) at an access that they have no place for. That it might run
    out of lengths is left aside here: they are those of data that it has already, or of at most 256
    bytes. Instructions that touch neither are those of the machine, which is the same in all its
    other parts.

    An operation that fails answers with its fault and hands on what it has left by that time. -/

namespace Chip8

/-- What a host keeps of a machine. -/
structure Layout where
  bytes : Bytes
  program : List UInt8
  registers : Bank UInt8
  index : UInt16
  pc : UInt16
  stack : List UInt16
  delayTimer : UInt8
  soundTimer : UInt8
  cells : Cells
  keypad : Keypad
  random : Random
  fault : Option Fault
  deriving DecidableEq

/-- How a machine lies in a host. -/
def Machine.layout (m : Machine) : Layout where
  bytes := m.memory.bytes.toList
  program := m.program
  registers := m.registers
  index := m.index
  pc := m.pc
  stack := m.stack
  delayTimer := m.delayTimer
  soundTimer := m.soundTimer
  cells := m.grid.words
  keypad := m.keypad
  random := m.random
  fault := m.fault

namespace Layout

/-- What an operation answers, and what it leaves. -/
abbrev Answer (ε α : Type) := Except ε α × Layout

/-- The machine that a layout shows: as many of the bytes and of the cells as a machine has, all
of them zero or dark that are missing. -/
def machine (l : Layout) : Machine where
  memory := .ofBytes l.bytes
  program := l.program
  registers := l.registers
  index := l.index
  pc := l.pc
  stack := l.stack
  delayTimer := l.delayTimer
  soundTimer := l.soundTimer
  grid := ⟨Vector.ofFn fun k => l.cells[k.val]?.getD Cells.off == Cells.on⟩
  keypad := l.keypad
  random := l.random
  fault := l.fault

/-- The layout with all of its parts but the bytes and the cells taken from a machine. -/
def adopt (l : Layout) (m : Machine) : Layout := { m.layout with bytes := l.bytes, cells := l.cells }

/-! ### Instructions -/

/-- Copy data over `len` bytes at the index. -/
def storeAtIndex? (l : Layout) (len : Nat) (data : List UInt8) : Option (Answer Fault Unit) := do
  let (answer, bytes) ← Bytes.write? .unlimited l.bytes l.index len fun _ => some data
  return (answer, { l with bytes })

/-- Draw the rows at the index at the position in two registers. -/
def drawRows? (l : Layout) (x y rows : UInt8) : Option (Answer Fault Unit) := do
  match ← Bytes.read? .unlimited l.bytes l.index rows.toNat with
  | .error f => return (.error f, l)
  | .ok sprite =>
    let (cells, collision) ← Cells.draw? l.cells sprite (l.machine.reg x) (l.machine.reg y)
    return (.ok (), { l with cells }.adopt (l.machine.setFlag collision))

/-- Set the registers up to `VX` to the bytes at the index. -/
def loadRegisters? (l : Layout) (x : UInt8) : Option (Answer Fault Unit) := do
  match ← Bytes.read? .unlimited l.bytes l.index (x.toNat + 1) with
  | .error f => return (.error f, l)
  | .ok values => return (.ok (), l.adopt (l.machine.setFirstRegisters values))

/-- Execute one instruction. -/
def execute? (l : Layout) : Instruction → Option (Answer Fault Unit)
  | .clearScreen => some (.ok (), { l with cells := Cells.clear l.cells })
  | .draw x y n => l.drawRows? x y n
  | .storeBcd x => l.storeAtIndex? 3 (Machine.decimalDigits (l.machine.reg x))
  | .dumpRegisters x => l.storeAtIndex? (x.toNat + 1) (l.machine.firstRegisters x)
  | .loadRegisters x => l.loadRegisters? x
  | i =>
    let o := l.machine.execute i
    some (o.result, l.adopt o.machine)

/-! ### Cycles -/

/-- Read the word at the program counter and move past it. -/
def fetch? (l : Layout) : Option (Answer Fault Word) := do
  match ← Bytes.word? .unlimited l.bytes l.pc with
  | .error f => return (.error f, l)
  | .ok w => return (.ok w, { l with pc := l.pc + 2 })

/-- Execute the word that was fetched from `pc`, then tick. -/
def perform? (l : Layout) (pc : UInt16) (w : Word) : Option (Answer Fault Unit) := do
  match Instruction.decode w with
  | none => return (.error (.unknownInstruction w pc), l)
  | some i =>
    match ← l.execute? i with
    | (.error f, l) => return (.error f, l)
    | (.ok _, l) => return (.ok (), l.adopt l.machine.tick)

/-- Fetch, decode, execute, tick; a fault may leave the program counter moved. -/
def step? (l : Layout) : Option (Answer Fault Unit) := do
  match ← l.fetch? with
  | (.error f, l') => return (.error f, l')
  | (.ok w, l') => l'.perform? l.pc w

/-- Run one cycle, unless the machine has stopped. -/
def cycle? (l : Layout) : Option (Answer Fault Unit) := do
  match l.fault with
  | some f => return (.error f, l)
  | none =>
    match ← l.step? with
    | (.error f, l') => return (.error f, { l' with pc := l.pc, fault := some f })
    | (.ok _, l') => return (.ok (), l')

/-- Run up to `n` cycles, stopping after the first that fails. -/
def run? (l : Layout) : Nat → Option (Answer Fault Unit)
  | 0 => some (.ok (), l)
  | n + 1 => do
    match ← l.cycle? with
    | (.error f, l) => return (.error f, l)
    | (.ok _, l) => l.run? n

/-! ### Programs -/

/-- Copy a program to where programs go. -/
def place? (bytes : Bytes) (program : List UInt8) : Option (Except Fault Unit × Bytes) :=
  Bytes.write? .unlimited bytes Memory.programStart program.length fun _ => some program

/-- Load a program. -/
def load? (l : Layout) (program : List UInt8) : Option (Answer Fault Unit) := do
  match ← place? l.bytes program with
  | (.error f, bytes) => return (.error f, { l with bytes })
  | (.ok _, bytes) => return (.ok (), { l with bytes, program })

/-- Load a program from a source, and say how many bytes it has. -/
def loadFrom? (l : Layout) (source : ByteSource) : Option (Answer LoadError Nat) := do
  match source.contents with
  | .error e => return (.error (.read e), l)
  | .ok program =>
    let (answer, l) ← l.load? program
    return ((answer.map fun _ => program.length).mapError .fault, l)

/-- Go back to power-on state with the last program loaded again. -/
def reset? (l : Layout) : Option (Answer Fault Unit) := do
  match ← place? (← Bytes.clear? l.bytes) l.program with
  | (.error f, bytes) => return (.error f, { l with bytes })
  | (.ok _, bytes) =>
    return (.ok (), { l with
      bytes
      registers := Vector.replicate 16 0
      index := 0
      pc := Memory.programStart
      stack := []
      delayTimer := 0
      soundTimer := 0
      cells := Cells.clear l.cells
      keypad := Keypad.released
      fault := none })

/-! ### Requests -/

/-- An answer in the form all requests share. -/
def reply {α : Type} (answer : α → Machine.Reply) (a : Answer Fault α) :
    Answer LoadError Machine.Reply :=
  ((a.1.map answer).mapError .fault, a.2)

/-- Carry out a request. -/
def handle? (l : Layout) : Machine.Request → Option (Answer LoadError Machine.Reply)
  | .load program => (l.load? program).map (reply fun _ => .done)
  | .loadFrom source => (l.loadFrom? source).map fun a => (a.1.map .count, a.2)
  | .reset => l.reset?.map (reply fun _ => .done)
  | .fetch => l.fetch?.map (reply .word)
  | .execute i => (l.execute? i).map (reply fun _ => .done)
  | .executeWord w =>
    match Instruction.decode w with
    | none => some (.ok .unknown, l)
    | some i => (l.execute? i).map (reply fun _ => .done)
  | .cycle => l.cycle?.map (reply fun _ => .done)
  | .run n => (l.run? n).map (reply fun _ => .done)
  | .keys e => some (.ok .done, { l with keypad := l.keypad.edit e })

/-- A machine as it is switched on. -/
def powerOn? (random : Random) : Option Layout := do
  return { (Machine.powerOn random).layout with bytes := ← Bytes.powerOn?, cells := Cells.dark }

/-- Carry out a history of requests: their answers in order, and what the last of them leaves. -/
def handleAll? (l : Layout) :
    List Machine.Request → Option (List (Except LoadError Machine.Reply) × Layout)
  | [] => some ([], l)
  | r :: rest => do
    let (answer, l) ← l.handle? r
    let (answers, l) ← l.handleAll? rest
    return (answer :: answers, l)

/-- What the parts of a layout are held to. -/
structure Invariant (l : Layout) : Prop where
  length_bytes : l.bytes.length = 4096
  length_program : l.program.length ≤ 3584
  length_stack : l.stack.length ≤ 16
  length_cells : l.cells.length = 2048
  on_or_off : ∀ word ∈ l.cells, word = Cells.on ∨ word = Cells.off

end Layout

end Chip8
