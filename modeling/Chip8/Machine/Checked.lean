import Chip8.Machine.Cycle
import Chip8.Memory.Bytes

/-! A cycle that is held to the limits of its host.

    The operations of a machine are total: a sum wraps, a register is named by four bits of any
    byte, memory reads zero outside. A host has less patience, and stops the whole program at a sum
    or a difference it cannot hold, or at an index outside its sequence. `Machine.cycle?` is the
    cycle with each of them checked where the host checks it: its answer is `none` if a check fails,
    and also if the program counter would wrap. Where wrapping is meant, as in the arithmetic of the
    registers and of the index, nothing is checked. Memory is bytes in a row, and lengths are those
    of the least host. -/

namespace Chip8

/-! ### Sequences -/

/-- The entry at an index that nobody has masked. -/
def Bank.read? {α : Type} (bank : Bank α) (b : UInt8) : Option α := bank[b.toNat]?

/-- The bank with the entry changed at an index that nobody has masked. -/
def Bank.write? {α : Type} (bank : Bank α) (b : UInt8) (value : α) : Option (Bank α) :=
  if b.toNat < 16 then some (bank.setIfInBounds b.toNat value) else none

namespace Keypad

/-- Whether the key named by the low four bits is down. -/
def isDown? (k : Keypad) (key : UInt8) : Option Bool := k.down.read? (key &&& 0xf)

/-- The lowest of the scanned keys that is down. -/
def firstDown? (k : Keypad) : Option (Option UInt8) := scanned.findM? k.down.read?

end Keypad

namespace Memory

/-- The address of the glyph of `digit`. -/
def glyphAddr? (digit : UInt8) : Option UInt16 := do
  Host.sum? fontStart (← Host.product? digit.toUInt16 glyphRows)

end Memory

namespace Grid

/-- Toggle the cell in column `x` of row `y`, and note whether that switched it off. -/
def toggleAt? (drawn : Grid × Bool) (x y : Nat) : Option (Grid × Bool) := do
  let index ← Host.least.size? (y % height * width + x % width)
  let was ← drawn.1.cells[index]?
  return (⟨drawn.1.cells.setIfInBounds index (!was)⟩, drawn.2 || was)

/-- Draw one row; a byte cannot be shifted by eight places or more. -/
def drawRow? (bits : UInt8) (x y : Nat) (drawn : Grid × Bool) : Option (Grid × Bool) :=
  (rowColumns bits).foldlM (fun drawn column => do
    if column < 8 then toggleAt? drawn (← Host.least.size? (x + column)) y else none) drawn

/-- Draw rows from row `y` on. -/
def drawRows? : List UInt8 → Nat → Nat → Grid × Bool → Option (Grid × Bool)
  | [], _, _, drawn => some drawn
  | bits :: rest, x, y, drawn => do
    drawRows? rest x (y + 1) (← drawRow? bits x (← Host.least.size? y) drawn)

/-- Draw a sprite at `(x, y)`: the grid after it, and whether a lit cell went dark. -/
def draw? (g : Grid) (sprite : List UInt8) (x y : UInt8) : Option (Grid × Bool) :=
  drawRows? sprite (x.toNat % width) (y.toNat % height) (g, false)

end Grid

/-! ### The machine -/

/-- Go on with the value and the machine of an operation that succeeded. -/
def Outcome.andThen? {ε α β : Type} (o : Outcome ε α)
    (next : α → Machine → Option (Outcome ε β)) : Option (Outcome ε β) :=
  match o.result with
  | .error e => some ⟨.error e, o.machine, o.log⟩
  | .ok a => do
    let o' ← next a o.machine
    return ⟨o'.result, o'.machine, o.log ++ o'.log⟩

namespace Machine

/-- The value of a register. -/
def reg? (m : Machine) (x : UInt8) : Option UInt8 := m.registers.read? x

/-- The machine with a register changed. -/
def setReg? (m : Machine) (x value : UInt8) : Option Machine := do
  return { m with registers := ← m.registers.write? x value }

/-- The machine with the flag register up or down. -/
def setFlag? (m : Machine) (flag : Bool) : Option Machine := m.setReg? 0xf (if flag then 1 else 0)

/-- Move on by one instruction more if the condition holds. -/
def skipIf? (m : Machine) (condition : Bool) : Option Machine :=
  if condition then do return { m with pc := ← Host.sum? m.pc 2 } else some m

/-- The first `count` registers, if there are so many. -/
def firstRegisters? (m : Machine) (count : Nat) : Option (List UInt8) :=
  if count ≤ 16 then some (m.registers.toList.take count) else none

/-- The machine with its first `count` registers set to the values, if there are as many of both. -/
def setFirstRegisters? (m : Machine) (count : Nat) (values : List UInt8) : Option Machine :=
  if count ≤ 16 ∧ values.length = count then some (m.setFirstRegisters values) else none

/-- The bytes of memory as the host has them. -/
def bytes (m : Machine) : Bytes := m.memory.bytes.toList

/-- Copy data over `len` bytes at the index; the data is looked at only when it has a place. -/
def storeAtIndex? (m : Machine) (len : Nat) (data? : Unit → Option Bytes) :
    Option (Outcome Fault Unit) := do
  let (answer, bytes) ← Bytes.write? .least m.bytes m.index len data?
  return ⟨answer, { m with memory := .ofBytes bytes }, []⟩

/-- Draw the rows at the index at the position in two registers. -/
def drawAtIndex? (m : Machine) (x y rows : UInt8) : Option (Outcome Fault Unit) := do
  match ← Bytes.read? .least m.bytes m.index rows.toNat with
  | .error f => return m.fail f
  | .ok sprite =>
    let (grid, collision) ← m.grid.draw? sprite (← m.reg? x) (← m.reg? y)
    return (← { m with grid }.setFlag? collision).succeed ()

/-- Set the first `count` registers to the bytes at the index. -/
def loadFromIndex? (m : Machine) (count : Nat) : Option (Outcome Fault Unit) := do
  match ← Bytes.read? .least m.bytes m.index count with
  | .error f => return m.fail f
  | .ok values => return (← m.setFirstRegisters? count values).succeed ()

/-- Execute one instruction. -/
def execute? (m : Machine) (i : Instruction) : Option (Outcome Fault Unit) := do
  let here ← Host.difference? m.pc 2
  match i with
  | .sys _ => return m.succeed ()
  | .clearScreen => return { m with grid := Grid.dark }.succeed ()
  | .ret =>
    match m.stack with
    | [] => return m.fail (.stackUnderflow here)
    | top :: rest => return { m with stack := rest, pc := top }.succeed ()
  | .jump addr => return { m with pc := addr }.succeed ()
  | .call addr =>
    if m.stack.length = stackLimit then return m.fail (.stackOverflow here)
    else return { m with stack := m.pc :: m.stack, pc := addr }.succeed ()
  | .skipEqImm x nn => return (← m.skipIf? ((← m.reg? x) == nn)).succeed ()
  | .skipNeImm x nn => return (← m.skipIf? ((← m.reg? x) != nn)).succeed ()
  | .skipEqReg x y => return (← m.skipIf? ((← m.reg? x) == (← m.reg? y))).succeed ()
  | .skipNeReg x y => return (← m.skipIf? ((← m.reg? x) != (← m.reg? y))).succeed ()
  | .loadImm x nn => return (← m.setReg? x nn).succeed ()
  | .addImm x nn => return (← m.setReg? x ((← m.reg? x) + nn)).succeed ()
  | .copy x y => return (← m.setReg? x (← m.reg? y)).succeed ()
  | .or x y => return (← m.setReg? x ((← m.reg? x) ||| (← m.reg? y))).succeed ()
  | .and x y => return (← m.setReg? x ((← m.reg? x) &&& (← m.reg? y))).succeed ()
  | .xor x y => return (← m.setReg? x ((← m.reg? x) ^^^ (← m.reg? y))).succeed ()
  | .addReg x y =>
    let vx ← m.reg? x
    let vy ← m.reg? y
    return (← (← m.setReg? x (vx + vy)).setFlag? (vx.toNat + vy.toNat ≥ 256)).succeed ()
  | .subReg x y =>
    let vx ← m.reg? x
    let vy ← m.reg? y
    return (← (← m.setReg? x (vx - vy)).setFlag? (vx ≥ vy)).succeed ()
  | .subRegReverse x y =>
    let vx ← m.reg? x
    let vy ← m.reg? y
    return (← (← m.setReg? x (vy - vx)).setFlag? (vy ≥ vx)).succeed ()
  | .shiftRight x =>
    let vx ← m.reg? x
    return (← (← m.setReg? x (vx >>> 1)).setFlag? (vx &&& 1 == 1)).succeed ()
  | .shiftLeft x =>
    let vx ← m.reg? x
    return (← (← m.setReg? x (vx <<< 1)).setFlag? (vx >>> 7 == 1)).succeed ()
  | .setIndex addr => return { m with index := addr }.succeed ()
  | .jumpOffset addr =>
    return { m with pc := ← Host.sum? addr (← m.reg? 0).toUInt16 }.succeed ()
  | .random x nn =>
    let (byte, random) := m.random.next
    return (← { m with random }.setReg? x (byte &&& nn)).succeed ()
  | .draw x y n => m.drawAtIndex? x y n
  | .skipKeyDown x =>
    return (← m.skipIf? (← m.keypad.isDown? (← m.reg? x))).succeed ()
  | .skipKeyUp x =>
    return (← m.skipIf? (!(← m.keypad.isDown? (← m.reg? x)))).succeed ()
  | .getDelayTimer x => return (← m.setReg? x m.delayTimer).succeed ()
  | .waitKey x =>
    match ← m.keypad.firstDown? with
    | some key => return (← m.setReg? x key).succeed ()
    | none => return { m with pc := here }.succeed ()
  | .setDelayTimer x => return { m with delayTimer := ← m.reg? x }.succeed ()
  | .setSoundTimer x => return { m with soundTimer := ← m.reg? x }.succeed ()
  | .addIndex x => return { m with index := m.index + (← m.reg? x).toUInt16 }.succeed ()
  | .loadFontAddr x => return { m with index := ← Memory.glyphAddr? (← m.reg? x) }.succeed ()
  | .storeBcd x =>
    let vx ← m.reg? x
    m.storeAtIndex? 3 fun _ => some (decimalDigits vx)
  | .dumpRegisters x =>
    let count ← Host.least.size? (x.toNat + 1)
    m.storeAtIndex? count fun _ => m.firstRegisters? count
  | .loadRegisters x =>
    let count ← Host.least.size? (x.toNat + 1)
    m.loadFromIndex? count

/-- Read the word at the program counter and move past it. -/
def fetch? (m : Machine) : Option (Outcome Fault Word) := do
  match ← Bytes.word? .least m.bytes m.pc with
  | .error f => return m.fail f
  | .ok w => return { m with pc := ← Host.sum? m.pc 2 }.succeed w

/-- Count both timers down by one, not below zero. -/
def tick? (m : Machine) : Option Machine := do
  return { m with
    delayTimer := ← Host.countDown? m.delayTimer
    soundTimer := ← Host.countDown? m.soundTimer }

/-- Execute the word that was fetched from `pc`, then tick. -/
def perform? (m : Machine) (pc : UInt16) (w : Word) : Option (Outcome Fault Unit) := do
  match Instruction.decode w with
  | none => return m.fail (.unknownInstruction w pc)
  | some i =>
    (m.announce pc w i).andThen? fun _ m => do
      (← m.execute? i).andThen? fun _ m => do
        return (← m.tick?).succeed ()

/-- Fetch, decode, execute, tick. -/
def step? (m : Machine) : Option (Outcome Fault Unit) := do
  (← m.fetch?).andThen? fun w m' => m'.perform? m.pc w

/-- Run one cycle, unless the machine has stopped. -/
def cycle? (m : Machine) : Option (Outcome Fault Unit) := do
  match m.fault with
  | some f => return m.fail f
  | none =>
    let o ← m.step?
    match o.result with
    | .ok _ => return o
    | .error f => return halt o m.pc f

end Machine

end Chip8
