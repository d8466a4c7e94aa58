import Chip8.Machine

/-! What each instruction does.

    An instruction is executed with the program counter already past it. Where the flag register is
    also an operand the flag is written last, from the operands as they were. The four kinds of
    access to memory and the two to the stack can fail. -/

namespace Chip8.Machine

/-- Move on by one instruction more if the condition holds. -/
def skipIf (m : Machine) (condition : Bool) : Machine :=
  if condition then { m with pc := m.pc + 2 } else m

/-- The three decimal digits of a byte. -/
def decimalDigits (b : UInt8) : List UInt8 := [b / 100, b / 10 % 10, b % 10]

/-- The registers from `V0` to `VX`. Past `VF` they begin again at `V0`, as a register is named by
the low four bits of a byte. -/
def firstRegisters (m : Machine) (x : UInt8) : List UInt8 :=
  (List.range (x.toNat + 1)).map fun k => m.reg (.ofNat k)

/-- The machine with its first registers set to the given values, of which sixteen are used. -/
def setFirstRegisters (m : Machine) (values : List UInt8) : Machine :=
  { m with registers := Vector.ofFn fun k => values[k.val]?.getD (m.registers.get k) }

/-- Write to memory at the index. -/
def storeAtIndex (m : Machine) (data : List UInt8) : Outcome Fault Unit :=
  match m.memory.write m.index data with
  | .error f => m.fail f
  | .ok memory => { m with memory }.succeed ()

/-- Draw the rows at the index at the position in two registers. -/
def drawRows (m : Machine) (x y rows : UInt8) : Outcome Fault Unit :=
  match m.memory.read m.index rows.toNat with
  | .error f => m.fail f
  | .ok sprite =>
    let (grid, collision) := m.grid.draw sprite (m.reg x) (m.reg y)
    ({ m with grid }.setFlag collision).succeed ()

/-- Execute one instruction. -/
def execute (m : Machine) : Instruction → Outcome Fault Unit
  | .sys _ => m.succeed ()
  | .clearScreen => { m with grid := Grid.dark }.succeed ()
  | .ret =>
    match m.stack with
    | [] => m.fail (.stackUnderflow (m.pc - 2))
    | top :: rest => { m with stack := rest, pc := top }.succeed ()
  | .jump addr => { m with pc := addr }.succeed ()
  | .call addr =>
    if m.stack.length = stackLimit then m.fail (.stackOverflow (m.pc - 2))
    else { m with stack := m.pc :: m.stack, pc := addr }.succeed ()
  | .skipEqImm x nn => (m.skipIf (m.reg x == nn)).succeed ()
  | .skipNeImm x nn => (m.skipIf (m.reg x != nn)).succeed ()
  | .skipEqReg x y => (m.skipIf (m.reg x == m.reg y)).succeed ()
  | .skipNeReg x y => (m.skipIf (m.reg x != m.reg y)).succeed ()
  | .loadImm x nn => (m.setReg x nn).succeed ()
  | .addImm x nn => (m.setReg x (m.reg x + nn)).succeed ()
  | .copy x y => (m.setReg x (m.reg y)).succeed ()
  | .or x y => (m.setReg x (m.reg x ||| m.reg y)).succeed ()
  | .and x y => (m.setReg x (m.reg x &&& m.reg y)).succeed ()
  | .xor x y => (m.setReg x (m.reg x ^^^ m.reg y)).succeed ()
  | .addReg x y =>
    ((m.setReg x (m.reg x + m.reg y)).setFlag
      ((m.reg x).toNat + (m.reg y).toNat ≥ 256)).succeed ()
  | .subReg x y =>
    ((m.setReg x (m.reg x - m.reg y)).setFlag (m.reg x ≥ m.reg y)).succeed ()
  | .subRegReverse x y =>
    ((m.setReg x (m.reg y - m.reg x)).setFlag (m.reg y ≥ m.reg x)).succeed ()
  | .shiftRight x =>
    ((m.setReg x (m.reg x >>> 1)).setFlag (m.reg x &&& 1 == 1)).succeed ()
  | .shiftLeft x =>
    ((m.setReg x (m.reg x <<< 1)).setFlag (m.reg x >>> 7 == 1)).succeed ()
  | .setIndex addr => { m with index := addr }.succeed ()
  | .jumpOffset addr => { m with pc := addr + (m.reg 0).toUInt16 }.succeed ()
  | .random x nn =>
    let (byte, random) := m.random.next
    ({ m with random }.setReg x (byte &&& nn)).succeed ()
  | .draw x y n => m.drawRows x y n
  | .skipKeyDown x => (m.skipIf (m.keypad.isDown (m.reg x))).succeed ()
  | .skipKeyUp x => (m.skipIf (!m.keypad.isDown (m.reg x))).succeed ()
  | .getDelayTimer x => (m.setReg x m.delayTimer).succeed ()
  | .waitKey x =>
    match m.keypad.firstDown with
    | some key => (m.setReg x key).succeed ()
    | none => { m with pc := m.pc - 2 }.succeed ()
  | .setDelayTimer x => { m with delayTimer := m.reg x }.succeed ()
  | .setSoundTimer x => { m with soundTimer := m.reg x }.succeed ()
  | .addIndex x => { m with index := m.index + (m.reg x).toUInt16 }.succeed ()
  | .loadFontAddr x => { m with index := Memory.glyphAddr (m.reg x) }.succeed ()
  | .storeBcd x => m.storeAtIndex (decimalDigits (m.reg x))
  | .dumpRegisters x => m.storeAtIndex (m.firstRegisters x)
  | .loadRegisters x =>
    match m.memory.read m.index (x.toNat + 1) with
    | .error f => m.fail f
    | .ok values => (m.setFirstRegisters values).succeed ()

@[simp] theorem length_firstRegisters (m : Machine) (x : UInt8) :
    (m.firstRegisters x).length = x.toNat + 1 := by
  simp [firstRegisters]

/-- Up to `VF` the first registers are a prefix of the registers. -/
theorem firstRegisters_of_lt (m : Machine) {x : UInt8} (h : x.toNat < 16) :
    m.firstRegisters x = m.registers.toList.take (x.toNat + 1) := by
  refine List.ext_getElem (by simp; omega) fun k hk _ => ?_
  have hk : k < 16 := by simp at hk; omega
  have hn : (nibble (.ofNat k)).val = k := by simp [nibble]; omega
  simp [firstRegisters, reg, Bank.entry, hn]

/-- Decode a word and execute its instruction; `none` if the word is unknown. -/
def executeWord (m : Machine) (w : Word) : Option (Outcome Fault Unit) :=
  (Instruction.decode w).map m.execute

end Chip8.Machine
