import Chip8.Instruction

/-! The instruction set as a table of patterns.

    A pattern has a place for each of the four hexadecimal digits of a word, the highest first. A
    digit asks for itself; the letters `X`, `Y` and `N` mark operands and leave the digit free. So
    `8XY4` fits `0x8ab4` and not `0x8ab5`. `lookup` reads the table from the top, and
    `decode_eq_lookup` says that decoding is nothing else. -/

namespace Chip8.Pattern

/-- The value that a place asks for; the letters ask for none. -/
def value? : Char → Option Nat
  | '0' => some 0x0
  | '1' => some 0x1
  | '2' => some 0x2
  | '3' => some 0x3
  | '4' => some 0x4
  | '5' => some 0x5
  | '6' => some 0x6
  | '7' => some 0x7
  | '8' => some 0x8
  | '9' => some 0x9
  | 'A' => some 0xa
  | 'B' => some 0xb
  | 'C' => some 0xc
  | 'D' => some 0xd
  | 'E' => some 0xe
  | 'F' => some 0xf
  | _ => none

/-- The values that the places of a pattern ask for. -/
def places (pattern : String) : List (Option Nat) := pattern.toList.map value?

/-- The four digits of a word, the highest first. -/
def digits (w : Word) : List Nat :=
  [w.toNat / 4096, w.toNat / 256 % 16, w.toNat / 16 % 16, w.toNat % 16]

/-- Whether a word has the digits that a pattern asks for. -/
def fits (pattern : String) (w : Word) : Bool :=
  (List.zipWith (fun place d => place.all (d == ·)) (places pattern) (digits w)).all id

/-- The patterns, each with the instruction of a word that fits it. Of the words that fit `0NNN`,
`00E0` and `00EE` are instructions of their own. -/
def table : List (String × (Word → Instruction)) :=
  [("00E0", fun _ => .clearScreen),
   ("00EE", fun _ => .ret),
   ("0NNN", fun w => .sys w.nnn),
   ("1NNN", fun w => .jump w.nnn),
   ("2NNN", fun w => .call w.nnn),
   ("3XNN", fun w => .skipEqImm w.x w.nn),
   ("4XNN", fun w => .skipNeImm w.x w.nn),
   ("5XY0", fun w => .skipEqReg w.x w.y),
   ("6XNN", fun w => .loadImm w.x w.nn),
   ("7XNN", fun w => .addImm w.x w.nn),
   ("8XY0", fun w => .copy w.x w.y),
   ("8XY1", fun w => .or w.x w.y),
   ("8XY2", fun w => .and w.x w.y),
   ("8XY3", fun w => .xor w.x w.y),
   ("8XY4", fun w => .addReg w.x w.y),
   ("8XY5", fun w => .subReg w.x w.y),
   ("8XY6", fun w => .shiftRight w.x),
   ("8XY7", fun w => .subRegReverse w.x w.y),
   ("8XYE", fun w => .shiftLeft w.x),
   ("9XY0", fun w => .skipNeReg w.x w.y),
   ("ANNN", fun w => .setIndex w.nnn),
   ("BNNN", fun w => .jumpOffset w.nnn),
   ("CXNN", fun w => .random w.x w.nn),
   ("DXYN", fun w => .draw w.x w.y w.n),
   ("EX9E", fun w => .skipKeyDown w.x),
   ("EXA1", fun w => .skipKeyUp w.x),
   ("FX07", fun w => .getDelayTimer w.x),
   ("FX0A", fun w => .waitKey w.x),
   ("FX15", fun w => .setDelayTimer w.x),
   ("FX18", fun w => .setSoundTimer w.x),
   ("FX1E", fun w => .addIndex w.x),
   ("FX29", fun w => .loadFontAddr w.x),
   ("FX33", fun w => .storeBcd w.x),
   ("FX55", fun w => .dumpRegisters w.x),
   ("FX65", fun w => .loadRegisters w.x)]

/-- The instruction beside the first pattern of a table that a word fits. -/
def lookup : List (String × (Word → Instruction)) → Word → Option Instruction
  | [], _ => none
  | (pattern, form) :: rest, w => if fits pattern w then some (form w) else lookup rest w

/-- Whether a word fits one of the patterns. -/
def documented (w : Word) : Bool := table.any fun entry => fits entry.1 w

/-- The patterns but for `0NNN`: a word fits at most one of these. -/
def strict : List String := (table.map (·.1)).filter (· ≠ "0NNN")

/-- Whether a word fits one of some patterns. -/
def among (patterns : List String) (w : Word) : Bool := patterns.any (fits · w)

/-- Whether two patterns ask for different values at some place. -/
def clash (pattern other : String) : Bool :=
  (List.zipWith (fun p q => p.any fun a => q.any (· != a)) (places pattern) (places other)).any id

end Chip8.Pattern

/-- The pattern of the words that stand for an instruction. -/
def Chip8.Instruction.pattern : Instruction → String
  | sys .. => "0NNN"
  | clearScreen => "00E0"
  | ret => "00EE"
  | jump .. => "1NNN"
  | call .. => "2NNN"
  | skipEqImm .. => "3XNN"
  | skipNeImm .. => "4XNN"
  | skipEqReg .. => "5XY0"
  | loadImm .. => "6XNN"
  | addImm .. => "7XNN"
  | copy .. => "8XY0"
  | or .. => "8XY1"
  | and .. => "8XY2"
  | xor .. => "8XY3"
  | addReg .. => "8XY4"
  | subReg .. => "8XY5"
  | shiftRight .. => "8XY6"
  | subRegReverse .. => "8XY7"
  | shiftLeft .. => "8XYE"
  | skipNeReg .. => "9XY0"
  | setIndex .. => "ANNN"
  | jumpOffset .. => "BNNN"
  | random .. => "CXNN"
  | draw .. => "DXYN"
  | skipKeyDown .. => "EX9E"
  | skipKeyUp .. => "EXA1"
  | getDelayTimer .. => "FX07"
  | waitKey .. => "FX0A"
  | setDelayTimer .. => "FX15"
  | setSoundTimer .. => "FX18"
  | addIndex .. => "FX1E"
  | loadFontAddr .. => "FX29"
  | storeBcd .. => "FX33"
  | dumpRegisters .. => "FX55"
  | loadRegisters .. => "FX65"
