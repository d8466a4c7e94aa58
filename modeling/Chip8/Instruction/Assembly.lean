import Chip8.Decimal.Reading
import Chip8.Instruction.Mnemonic

/-! The text of an instruction READ BACK.

    A line has a name and operands, with a comma after each operand but the last. What an operand is
    shows in its text alone: registers begin with a `V` and hexadecimal numbers with `0x`, where an
    address has at least three digits and a byte has at most two, the height of a sprite is decimal,
    and the other operands are words of their own. So a text has one line, and with the number of
    its operands and their kinds the name is that of one instruction. -/

namespace Chip8.Instruction

/-- What can stand in a line after the name. -/
inductive Operand
  | register (x : UInt8)
  | byte (nn : UInt8)
  | addr (a : UInt16)
  /-- The height of a sprite. -/
  | rows (n : UInt8)
  /-- The index itself. -/
  | index
  /-- The memory at the index. -/
  | memory
  | delayTimer
  | soundTimer
  | key
  | glyph
  /-- The decimal digits of a byte. -/
  | decimals
  deriving DecidableEq, Repr

namespace Operand

/-- An operand as it is written. -/
def text : Operand → String
  | register x => Instruction.register x
  | byte nn => immediate nn
  | addr a => address a
  | rows n => Text.decimal n.toNat
  | index => "I"
  | memory => "[I]"
  | delayTimer => "DT"
  | soundTimer => "ST"
  | key => "K"
  | glyph => "F"
  | decimals => "B"

/-- The operand that is written so, unless it is the height of a sprite. -/
def named? : List Char → Option Operand
  | 'V' :: digits => some (register (.ofNat (Text.hexValue digits)))
  | '0' :: 'x' :: digits =>
    let value := Text.hexValue digits
    some (if digits.length < 3 then byte (.ofNat value) else addr (.ofNat value))
  | ['I'] => some index
  | ['[', 'I', ']'] => some memory
  | ['D', 'T'] => some delayTimer
  | ['S', 'T'] => some soundTimer
  | ['K'] => some key
  | ['F'] => some glyph
  | ['B'] => some decimals
  | _ => none

/-- The operand that is written so. -/
def ofText? (text : List Char) : Option Operand :=
  match Decimal.digits? text with
  | some n => some (rows (.ofNat n))
  | none => named? text

end Operand

open Operand

/-- The name and the operands of an instruction as they are written. -/
def line : Instruction → String × List Operand
  | sys a => ("SYS", [addr a])
  | clearScreen => ("CLS", [])
  | ret => ("RET", [])
  | jump a => ("JP", [addr a])
  | call a => ("CALL", [addr a])
  | skipEqImm x nn => ("SE", [.register x, byte nn])
  | skipNeImm x nn => ("SNE", [.register x, byte nn])
  | skipEqReg x y => ("SE", [.register x, .register y])
  | loadImm x nn => ("LD", [.register x, byte nn])
  | addImm x nn => ("ADD", [.register x, byte nn])
  | copy x y => ("LD", [.register x, .register y])
  | or x y => ("OR", [.register x, .register y])
  | and x y => ("AND", [.register x, .register y])
  | xor x y => ("XOR", [.register x, .register y])
  | addReg x y => ("ADD", [.register x, .register y])
  | subReg x y => ("SUB", [.register x, .register y])
  | shiftRight x => ("SHR", [.register x])
  | subRegReverse x y => ("SUBN", [.register x, .register y])
  | shiftLeft x => ("SHL", [.register x])
  | skipNeReg x y => ("SNE", [.register x, .register y])
  | setIndex a => ("LD", [index, addr a])
  | jumpOffset a => ("JP", [.register 0, addr a])
  | random x nn => ("RND", [.register x, byte nn])
  | draw x y n => ("DRW", [.register x, .register y, rows n])
  | skipKeyDown x => ("SKP", [.register x])
  | skipKeyUp x => ("SKNP", [.register x])
  | getDelayTimer x => ("LD", [.register x, delayTimer])
  | waitKey x => ("LD", [.register x, key])
  | setDelayTimer x => ("LD", [delayTimer, .register x])
  | setSoundTimer x => ("LD", [soundTimer, .register x])
  | addIndex x => ("ADD", [index, .register x])
  | loadFontAddr x => ("LD", [glyph, .register x])
  | storeBcd x => ("LD", [decimals, .register x])
  | dumpRegisters x => ("LD", [memory, .register x])
  | loadRegisters x => ("LD", [.register x, memory])

/-- The instruction with the given line. -/
def ofLine? : String → List Operand → Option Instruction
  | "SYS", [addr a] => some (sys a)
  | "CLS", [] => some clearScreen
  | "RET", [] => some ret
  | "JP", [addr a] => some (jump a)
  | "CALL", [addr a] => some (call a)
  | "SE", [.register x, byte nn] => some (skipEqImm x nn)
  | "SNE", [.register x, byte nn] => some (skipNeImm x nn)
  | "SE", [.register x, .register y] => some (skipEqReg x y)
  | "LD", [.register x, byte nn] => some (loadImm x nn)
  | "ADD", [.register x, byte nn] => some (addImm x nn)
  | "LD", [.register x, .register y] => some (copy x y)
  | "OR", [.register x, .register y] => some (or x y)
  | "AND", [.register x, .register y] => some (and x y)
  | "XOR", [.register x, .register y] => some (xor x y)
  | "ADD", [.register x, .register y] => some (addReg x y)
  | "SUB", [.register x, .register y] => some (subReg x y)
  | "SHR", [.register x] => some (shiftRight x)
  | "SUBN", [.register x, .register y] => some (subRegReverse x y)
  | "SHL", [.register x] => some (shiftLeft x)
  | "SNE", [.register x, .register y] => some (skipNeReg x y)
  | "LD", [index, addr a] => some (setIndex a)
  | "JP", [.register 0, addr a] => some (jumpOffset a)
  | "RND", [.register x, byte nn] => some (random x nn)
  | "DRW", [.register x, .register y, rows n] => some (draw x y n)
  | "SKP", [.register x] => some (skipKeyDown x)
  | "SKNP", [.register x] => some (skipKeyUp x)
  | "LD", [.register x, delayTimer] => some (getDelayTimer x)
  | "LD", [.register x, key] => some (waitKey x)
  | "LD", [delayTimer, .register x] => some (setDelayTimer x)
  | "LD", [soundTimer, .register x] => some (setSoundTimer x)
  | "ADD", [index, .register x] => some (addIndex x)
  | "LD", [glyph, .register x] => some (loadFontAddr x)
  | "LD", [decimals, .register x] => some (storeBcd x)
  | "LD", [memory, .register x] => some (dumpRegisters x)
  | "LD", [.register x, memory] => some (loadRegisters x)
  | _, _ => none

/-- Operands as the words of a text, with a comma after each but the last. -/
def words : List Operand → List (List Char)
  | [] => []
  | [o] => [o.text.toList]
  | o :: rest => (o.text.toList ++ [',']) :: words rest

/-- The operand that a word of a text is, without regard to the comma after it. -/
def ofWord? (word : List Char) : Option Operand := ofText? (word.filter (· != ','))

/-- The instruction that a text is the text of. -/
def ofMnemonic? (text : String) : Option Instruction :=
  match text.toList.splitOn ' ' with
  | [] => none
  | name :: words => do ofLine? (.ofList name) (← words.mapM ofWord?)

end Chip8.Instruction
