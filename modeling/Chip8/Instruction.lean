/-! The 35 instructions and the words that stand for them.

    A word has a class (its top four bits) and overlapping operand fields. `Instruction.decode`
    reads an instruction off those fields and answers `none` for a word outside the instruction set;
    what an unknown word means is for the machine to say. -/

namespace Chip8

/-- An instruction word, as it stands big-endian in memory. -/
abbrev Word := UInt16

namespace Word

/-- Bits 12 to 15. -/
def group (w : Word) : UInt8 := (w >>> 12).toUInt8

/-- Bits 8 to 11, the first register. -/
def x (w : Word) : UInt8 := ((w >>> 8) &&& 0xf).toUInt8

/-- Bits 4 to 7, the second register. -/
def y (w : Word) : UInt8 := ((w >>> 4) &&& 0xf).toUInt8

/-- Bits 0 to 3. -/
def n (w : Word) : UInt8 := (w &&& 0xf).toUInt8

/-- Bits 0 to 7, an immediate byte. -/
def nn (w : Word) : UInt8 := w.toUInt8

/-- Bits 0 to 11, an address. -/
def nnn (w : Word) : UInt16 := w &&& 0xfff

end Word

/-- The instruction set. `x` and `y` name registers, `nn` is a byte, `addr` an address. -/
inductive Instruction
  /-- A call of native code at an address, which does nothing here: `0NNN`. -/
  | sys (addr : UInt16)
  /-- Darken the screen: `00E0`. -/
  | clearScreen
  /-- Go back to the address on top of the stack: `00EE`. -/
  | ret
  /-- Go to an address: `1NNN`. -/
  | jump (addr : UInt16)
  /-- Push the address of the next instruction and go to another: `2NNN`. -/
  | call (addr : UInt16)
  /-- Skip the next instruction if `VX` is the byte: `3XNN`. -/
  | skipEqImm (x nn : UInt8)
  /-- Skip the next instruction if `VX` is not the byte: `4XNN`. -/
  | skipNeImm (x nn : UInt8)
  /-- Skip the next instruction if `VX` and `VY` are equal: `5XY0`. -/
  | skipEqReg (x y : UInt8)
  /-- Set `VX` to the byte: `6XNN`. -/
  | loadImm (x nn : UInt8)
  /-- Add the byte to `VX`, without a carry: `7XNN`. -/
  | addImm (x nn : UInt8)
  /-- Set `VX` to `VY`: `8XY0`. -/
  | copy (x y : UInt8)
  /-- Set `VX` to the bitwise or of `VX` and `VY`: `8XY1`. -/
  | or (x y : UInt8)
  /-- Set `VX` to the bitwise and of `VX` and `VY`: `8XY2`. -/
  | and (x y : UInt8)
  /-- Set `VX` to the exclusive or of `VX` and `VY`: `8XY3`. -/
  | xor (x y : UInt8)
  /-- Add `VY` to `VX`; the flag is the carry: `8XY4`. -/
  | addReg (x y : UInt8)
  /-- Subtract `VY` from `VX`; the flag says that nothing was borrowed: `8XY5`. -/
  | subReg (x y : UInt8)
  /-- Halve `VX`; the flag is the bit shifted out: `8XY6`, for any `Y`. -/
  | shiftRight (x : UInt8)
  /-- Set `VX` to `VY` less `VX`; the flag says that nothing was borrowed: `8XY7`. -/
  | subRegReverse (x y : UInt8)
  /-- Double `VX`; the flag is the bit shifted out: `8XYE`, for any `Y`. -/
  | shiftLeft (x : UInt8)
  /-- Skip the next instruction if `VX` and `VY` differ: `9XY0`. -/
  | skipNeReg (x y : UInt8)
  /-- Set the index to an address: `ANNN`. -/
  | setIndex (addr : UInt16)
  /-- Go to the address plus `V0`: `BNNN`. -/
  | jumpOffset (addr : UInt16)
  /-- Set `VX` to a random byte masked by the byte: `CXNN`. -/
  | random (x nn : UInt8)
  /-- Draw the `n` rows at the index at `(VX, VY)`; the flag is the collision: `DXYN`. -/
  | draw (x y n : UInt8)
  /-- Skip the next instruction if the key in `VX` is down: `EX9E`. -/
  | skipKeyDown (x : UInt8)
  /-- Skip the next instruction if the key in `VX` is up: `EXA1`. -/
  | skipKeyUp (x : UInt8)
  /-- Set `VX` to the delay timer: `FX07`. -/
  | getDelayTimer (x : UInt8)
  /-- Set `VX` to a key that is down, or run again if there is none: `FX0A`. -/
  | waitKey (x : UInt8)
  /-- Set the delay timer to `VX`: `FX15`. -/
  | setDelayTimer (x : UInt8)
  /-- Set the sound timer to `VX`: `FX18`. -/
  | setSoundTimer (x : UInt8)
  /-- Add `VX` to the index: `FX1E`. -/
  | addIndex (x : UInt8)
  /-- Set the index to the glyph of the digit in `VX`: `FX29`. -/
  | loadFontAddr (x : UInt8)
  /-- Store the three decimal digits of `VX` at the index: `FX33`. -/
  | storeBcd (x : UInt8)
  /-- Store `V0` to `VX` at the index: `FX55`. -/
  | dumpRegisters (x : UInt8)
  /-- Set `V0` to `VX` to the bytes at the index: `FX65`. -/
  | loadRegisters (x : UInt8)
  deriving DecidableEq, Repr

namespace Instruction

/-- The arithmetic of class 8, told apart by the last four bits. -/
def decodeArithmetic (w : Word) : Option Instruction :=
  match w.n with
  | 0x0 => some (copy w.x w.y)
  | 0x1 => some (or w.x w.y)
  | 0x2 => some (and w.x w.y)
  | 0x3 => some (xor w.x w.y)
  | 0x4 => some (addReg w.x w.y)
  | 0x5 => some (subReg w.x w.y)
  | 0x6 => some (shiftRight w.x)
  | 0x7 => some (subRegReverse w.x w.y)
  | 0xe => some (shiftLeft w.x)
  | _ => none

/-- The key tests of class E, told apart by the last byte. -/
def decodeKey (w : Word) : Option Instruction :=
  match w.nn with
  | 0x9e => some (skipKeyDown w.x)
  | 0xa1 => some (skipKeyUp w.x)
  | _ => none

/-- The timers, the key wait and the index operations of class F, told apart by the last byte. -/
def decodeMisc (w : Word) : Option Instruction :=
  match w.nn with
  | 0x07 => some (getDelayTimer w.x)
  | 0x0a => some (waitKey w.x)
  | 0x15 => some (setDelayTimer w.x)
  | 0x18 => some (setSoundTimer w.x)
  | 0x1e => some (addIndex w.x)
  | 0x29 => some (loadFontAddr w.x)
  | 0x33 => some (storeBcd w.x)
  | 0x55 => some (dumpRegisters w.x)
  | 0x65 => some (loadRegisters w.x)
  | _ => none

/-- The instruction that a word stands for, if it is in the instruction set. -/
def decode (w : Word) : Option Instruction :=
  match w.group with
  | 0x0 =>
    if w = 0x00e0 then some clearScreen
    else if w = 0x00ee then some ret
    else some (sys w.nnn)
  | 0x1 => some (jump w.nnn)
  | 0x2 => some (call w.nnn)
  | 0x3 => some (skipEqImm w.x w.nn)
  | 0x4 => some (skipNeImm w.x w.nn)
  | 0x5 => if w.n = 0 then some (skipEqReg w.x w.y) else none
  | 0x6 => some (loadImm w.x w.nn)
  | 0x7 => some (addImm w.x w.nn)
  | 0x8 => decodeArithmetic w
  | 0x9 => if w.n = 0 then some (skipNeReg w.x w.y) else none
  | 0xa => some (setIndex w.nnn)
  | 0xb => some (jumpOffset w.nnn)
  | 0xc => some (random w.x w.nn)
  | 0xd => some (draw w.x w.y w.n)
  | 0xe => decodeKey w
  | _ => decodeMisc w

end Instruction

/-! ### The fields as numbers -/

namespace Word

theorem toNat_group (w : Word) : w.group.toNat = w.toNat / 4096 := by
  have := w.toNat_lt
  simp [group, Nat.shiftRight_eq_div_pow]
  omega

theorem toNat_x (w : Word) : w.x.toNat = w.toNat / 256 % 16 := by
  simp [x, Nat.shiftRight_eq_div_pow, Nat.and_two_pow_sub_one_eq_mod _ 4]

theorem toNat_y (w : Word) : w.y.toNat = w.toNat / 16 % 16 := by
  simp [y, Nat.shiftRight_eq_div_pow, Nat.and_two_pow_sub_one_eq_mod _ 4]

theorem toNat_n (w : Word) : w.n.toNat = w.toNat % 16 := by
  simp [n, Nat.and_two_pow_sub_one_eq_mod _ 4]

theorem toNat_nn (w : Word) : w.nn.toNat = w.toNat % 256 := by
  simp [nn]

theorem toNat_nnn (w : Word) : w.nnn.toNat = w.toNat % 4096 := by
  simp [nnn, Nat.and_two_pow_sub_one_eq_mod _ 12]

end Word

end Chip8
