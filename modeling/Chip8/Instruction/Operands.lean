import Chip8.Instruction

/-! The operands of an instruction by what they are for: the registers it names and the address it
    holds. An operand is wider than the place it has in a word; an instruction is `Narrow` if its
    registers and its address would fit there. -/

namespace Chip8.Instruction

/-- The operands that name registers. -/
def registers : Instruction → List UInt8
  | sys _ => []
  | clearScreen => []
  | ret => []
  | jump _ => []
  | call _ => []
  | skipEqImm x _ => [x]
  | skipNeImm x _ => [x]
  | skipEqReg x y => [x, y]
  | loadImm x _ => [x]
  | addImm x _ => [x]
  | copy x y => [x, y]
  | or x y => [x, y]
  | and x y => [x, y]
  | xor x y => [x, y]
  | addReg x y => [x, y]
  | subReg x y => [x, y]
  | shiftRight x => [x]
  | subRegReverse x y => [x, y]
  | shiftLeft x => [x]
  | skipNeReg x y => [x, y]
  | setIndex _ => []
  | jumpOffset _ => []
  | random x _ => [x]
  | draw x y _ => [x, y]
  | skipKeyDown x => [x]
  | skipKeyUp x => [x]
  | getDelayTimer x => [x]
  | waitKey x => [x]
  | setDelayTimer x => [x]
  | setSoundTimer x => [x]
  | addIndex x => [x]
  | loadFontAddr x => [x]
  | storeBcd x => [x]
  | dumpRegisters x => [x]
  | loadRegisters x => [x]

/-- The operand that is an address. -/
def address? : Instruction → Option UInt16
  | sys a => some a
  | jump a => some a
  | call a => some a
  | setIndex a => some a
  | jumpOffset a => some a
  | _ => none

/-- Whether the registers are of the sixteen and the address is of twelve bits. -/
structure Narrow (i : Instruction) : Prop where
  register_lt : ∀ x ∈ i.registers, x.toNat < 16
  address_lt : ∀ a ∈ i.address?, a.toNat < 4096

end Chip8.Instruction
