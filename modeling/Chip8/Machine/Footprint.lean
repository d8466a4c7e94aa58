import Chip8.Instruction.Pattern
import Chip8.Machine.Cycle

/-! The FOOTPRINT of a word: all that the cycle that executes it may leave different, and of the
    keypad all that it looks at.

    It is said part by part, by the patterns of the words that may touch the part, and without the
    instructions that they stand for. -/

namespace Chip8

open Pattern (among fits)

/-- Whether none of the keys that a wait for a key looks at is down. -/
def Keypad.quiet (k : Keypad) : Bool := (List.range 15).all fun key => !k.isDown (.ofNat key)

namespace Pattern

/-- The patterns of the words that set the register `X`. -/
def settingX : List String :=
  ["6XNN", "7XNN", "8XY0", "8XY1", "8XY2", "8XY3", "8XY4", "8XY5", "8XY6", "8XY7", "8XYE", "CXNN",
   "FX07", "FX0A"]

/-- The patterns of the words that set the flag register. -/
def settingFlag : List String := ["8XY4", "8XY5", "8XY6", "8XY7", "8XYE", "DXYN"]

end Pattern

namespace Machine

/-- Whether the condition of a skip holds. -/
def skipTaken (m : Machine) (w : Word) : Bool :=
  fits "3XNN" w && m.reg w.x == w.nn ||
  fits "4XNN" w && m.reg w.x != w.nn ||
  fits "5XY0" w && m.reg w.x == m.reg w.y ||
  fits "9XY0" w && m.reg w.x != m.reg w.y ||
  fits "EX9E" w && m.keypad.isDown (m.reg w.x) ||
  fits "EXA1" w && !m.keypad.isDown (m.reg w.x)

/-- Where a word takes the program counter. -/
def destination (m : Machine) (w : Word) : Nat :=
  if among ["1NNN", "2NNN"] w then w.nnn.toNat
  else if fits "BNNN" w then w.nnn.toNat + (m.reg 0).toNat
  else if fits "00EE" w then (m.stack.headD 0).toNat
  else if fits "FX0A" w && m.keypad.quiet then m.pc.toNat
  else if m.skipTaken w then m.pc.toNat + 4
  else m.pc.toNat + 2

/-- What a cycle that executes a word makes of a machine. -/
structure Footprint (m : Machine) (w : Word) (m' : Machine) : Prop where
  /-- `FX33` stores the decimal digits of `VX` at the index, and nothing else. -/
  digits : fits "FX33" w = true → m.index.toNat + 2 < Memory.size ∧
    ∃ hundreds tens ones : UInt8, hundreds ≤ 9 ∧ tens ≤ 9 ∧ ones ≤ 9 ∧
      100 * hundreds.toNat + 10 * tens.toNat + ones.toNat = (m.reg w.x).toNat ∧
      ∀ a, m'.memory.byteAt a =
        if a = m.index.toNat then hundreds
        else if a = m.index.toNat + 1 then tens
        else if a = m.index.toNat + 2 then ones
        else m.memory.byteAt a
  /-- `FX55` stores `V0` to `VX` from the index on, and nothing else. -/
  dump : fits "FX55" w = true → m.index.toNat + w.x.toNat < Memory.size ∧
    ∀ a, m'.memory.byteAt a =
      if m.index.toNat ≤ a ∧ a ≤ m.index.toNat + w.x.toNat then
        m.reg (.ofNat (a - m.index.toNat))
      else m.memory.byteAt a
  memory : among ["FX33", "FX55"] w = false → m'.memory = m.memory
  /-- A register that changed is `VX`, or the flag, or one of those that `FX65` sets. -/
  registers : ∀ r : UInt8, r.toNat < 16 → m'.reg r ≠ m.reg r →
    r = w.x ∧ among Pattern.settingX w = true ∨ r = 0xf ∧ among Pattern.settingFlag w = true ∨
      r.toNat ≤ w.x.toNat ∧ fits "FX65" w = true
  /-- `FX65` sets `V0` to `VX` to the bytes from the index on. -/
  load : fits "FX65" w = true → m.index.toNat + w.x.toNat < Memory.size ∧
    ∀ j ≤ w.x.toNat, m'.reg (.ofNat j) = m.memory.byteAt (m.index.toNat + j)
  index : among ["ANNN", "FX1E", "FX29"] w = false → m'.index = m.index
  /-- A call pushes the address of the next word, a return pops one, and there is one to pop. -/
  stack : m'.stack =
    if fits "2NNN" w then (m.pc + 2) :: m.stack
    else if fits "00EE" w then m.stack.tail
    else m.stack
  popped : fits "00EE" w = true → m.stack ≠ []
  grid : among ["00E0", "DXYN"] w = false → m'.grid = m.grid
  random : fits "CXNN" w = false → m'.random = m.random
  keypad : m'.keypad = m.keypad
  program : m'.program = m.program
  fault : m'.fault = m.fault
  /-- A timer counts down from its value, or from the `VX` that it was set to. -/
  delayTimer : m'.delayTimer.toNat =
    (if fits "FX15" w then m.reg w.x else m.delayTimer).toNat - 1
  soundTimer : m'.soundTimer.toNat =
    (if fits "FX18" w then m.reg w.x else m.soundTimer).toNat - 1
  pc : m'.pc.toNat = m.destination w

/-- The keys that the next cycle looks at: the one that `VX` names, all that a wait for a key looks
at, or none. A machine that has stopped looks at none. -/
def keysRead (m : Machine) : List UInt8 :=
  if m.fault ≠ none then []
  else if among ["EX9E", "EXA1"] m.nextWord then [m.reg m.nextWord.x &&& 0xf]
  else if fits "FX0A" m.nextWord then (List.range 15).map .ofNat
  else []

end Machine

end Chip8
