import Chip8.Instruction
import Chip8.Text.Numeral

/-! The disassembly of an instruction.

    Registers are written `V0` to `VF`, addresses with three hexadecimal digits, bytes with two and
    the height of a sprite in decimal. Operands that no word can hold are written in full. -/

namespace Chip8.Instruction

/-- A register operand, such as `VA`. -/
def register (x : UInt8) : String := "V" ++ Text.upperHex x.toNat

/-- An immediate byte, such as `0x0f`. -/
def immediate (nn : UInt8) : String := "0x" ++ Text.hex 2 nn.toNat

/-- An address, such as `0x2a0`. -/
def address (addr : UInt16) : String := "0x" ++ Text.hex 3 addr.toNat

/-- The assembly text of an instruction. -/
def mnemonic : Instruction → String
  | sys a => "SYS " ++ address a
  | clearScreen => "CLS"
  | ret => "RET"
  | jump a => "JP " ++ address a
  | call a => "CALL " ++ address a
  | skipEqImm x nn => "SE " ++ register x ++ ", " ++ immediate nn
  | skipNeImm x nn => "SNE " ++ register x ++ ", " ++ immediate nn
  | skipEqReg x y => "SE " ++ register x ++ ", " ++ register y
  | loadImm x nn => "LD " ++ register x ++ ", " ++ immediate nn
  | addImm x nn => "ADD " ++ register x ++ ", " ++ immediate nn
  | copy x y => "LD " ++ register x ++ ", " ++ register y
  | or x y => "OR " ++ register x ++ ", " ++ register y
  | and x y => "AND " ++ register x ++ ", " ++ register y
  | xor x y => "XOR " ++ register x ++ ", " ++ register y
  | addReg x y => "ADD " ++ register x ++ ", " ++ register y
  | subReg x y => "SUB " ++ register x ++ ", " ++ register y
  | shiftRight x => "SHR " ++ register x
  | subRegReverse x y => "SUBN " ++ register x ++ ", " ++ register y
  | shiftLeft x => "SHL " ++ register x
  | skipNeReg x y => "SNE " ++ register x ++ ", " ++ register y
  | setIndex a => "LD I, " ++ address a
  | jumpOffset a => "JP V0, " ++ address a
  | random x nn => "RND " ++ register x ++ ", " ++ immediate nn
  | draw x y n => "DRW " ++ register x ++ ", " ++ register y ++ ", " ++ Text.decimal n.toNat
  | skipKeyDown x => "SKP " ++ register x
  | skipKeyUp x => "SKNP " ++ register x
  | getDelayTimer x => "LD " ++ register x ++ ", DT"
  | waitKey x => "LD " ++ register x ++ ", K"
  | setDelayTimer x => "LD DT, " ++ register x
  | setSoundTimer x => "LD ST, " ++ register x
  | addIndex x => "ADD I, " ++ register x
  | loadFontAddr x => "LD F, " ++ register x
  | storeBcd x => "LD B, " ++ register x
  | dumpRegisters x => "LD [I], " ++ register x
  | loadRegisters x => "LD " ++ register x ++ ", [I]"

end Chip8.Instruction
