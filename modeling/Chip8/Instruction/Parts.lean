import Chip8.Instruction
import Chip8.Text.Structure

/-! The structural form of an instruction: its name and its operands as numbers.

    The form is complete: `ofParts?` gives the instruction back. -/

namespace Chip8.Instruction

/-- The name of an instruction. -/
def name : Instruction → String
  | sys .. => "Sys"
  | clearScreen => "ClearScreen"
  | ret => "Return"
  | jump .. => "Jump"
  | call .. => "Call"
  | skipEqImm .. => "SkipEqImm"
  | skipNeImm .. => "SkipNeImm"
  | skipEqReg .. => "SkipEqReg"
  | loadImm .. => "LoadImm"
  | addImm .. => "AddImm"
  | copy .. => "Copy"
  | or .. => "Or"
  | and .. => "And"
  | xor .. => "Xor"
  | addReg .. => "AddReg"
  | subReg .. => "SubReg"
  | shiftRight .. => "ShiftRight"
  | subRegReverse .. => "SubRegReverse"
  | shiftLeft .. => "ShiftLeft"
  | skipNeReg .. => "SkipNeReg"
  | setIndex .. => "SetIndex"
  | jumpOffset .. => "JumpOffset"
  | random .. => "Random"
  | draw .. => "Draw"
  | skipKeyDown .. => "SkipKeyDown"
  | skipKeyUp .. => "SkipKeyUp"
  | getDelayTimer .. => "GetDelayTimer"
  | waitKey .. => "WaitKey"
  | setDelayTimer .. => "SetDelayTimer"
  | setSoundTimer .. => "SetSoundTimer"
  | addIndex .. => "AddIndex"
  | loadFontAddr .. => "LoadFontAddr"
  | storeBcd .. => "StoreBcd"
  | dumpRegisters .. => "DumpRegisters"
  | loadRegisters .. => "LoadRegisters"

/-- The operands of an instruction, in order. -/
def operands : Instruction → List Nat
  | sys a => [a.toNat]
  | clearScreen => []
  | ret => []
  | jump a => [a.toNat]
  | call a => [a.toNat]
  | skipEqImm x nn => [x.toNat, nn.toNat]
  | skipNeImm x nn => [x.toNat, nn.toNat]
  | skipEqReg x y => [x.toNat, y.toNat]
  | loadImm x nn => [x.toNat, nn.toNat]
  | addImm x nn => [x.toNat, nn.toNat]
  | copy x y => [x.toNat, y.toNat]
  | or x y => [x.toNat, y.toNat]
  | and x y => [x.toNat, y.toNat]
  | xor x y => [x.toNat, y.toNat]
  | addReg x y => [x.toNat, y.toNat]
  | subReg x y => [x.toNat, y.toNat]
  | shiftRight x => [x.toNat]
  | subRegReverse x y => [x.toNat, y.toNat]
  | shiftLeft x => [x.toNat]
  | skipNeReg x y => [x.toNat, y.toNat]
  | setIndex a => [a.toNat]
  | jumpOffset a => [a.toNat]
  | random x nn => [x.toNat, nn.toNat]
  | draw x y n => [x.toNat, y.toNat, n.toNat]
  | skipKeyDown x => [x.toNat]
  | skipKeyUp x => [x.toNat]
  | getDelayTimer x => [x.toNat]
  | waitKey x => [x.toNat]
  | setDelayTimer x => [x.toNat]
  | setSoundTimer x => [x.toNat]
  | addIndex x => [x.toNat]
  | loadFontAddr x => [x.toNat]
  | storeBcd x => [x.toNat]
  | dumpRegisters x => [x.toNat]
  | loadRegisters x => [x.toNat]

/-- How an instruction is formed from its operands. -/
inductive Former
  | plain (i : Instruction)
  | address (form : UInt16 → Instruction)
  | unary (form : UInt8 → Instruction)
  | binary (form : UInt8 → UInt8 → Instruction)
  | ternary (form : UInt8 → UInt8 → UInt8 → Instruction)

/-- The instruction formed from the operands, which keep their low bits; `none` on a wrong count. -/
def Former.ofOperands? : Former → List Nat → Option Instruction
  | plain i, [] => some i
  | address form, [a] => some (form (.ofNat a))
  | unary form, [x] => some (form (.ofNat x))
  | binary form, [x, y] => some (form (.ofNat x) (.ofNat y))
  | ternary form, [x, y, z] => some (form (.ofNat x) (.ofNat y) (.ofNat z))
  | _, _ => none

/-- Every instruction by name. -/
def formers : List (String × Former) :=
  [("Sys", .address sys),
   ("ClearScreen", .plain clearScreen),
   ("Return", .plain ret),
   ("Jump", .address jump),
   ("Call", .address call),
   ("SkipEqImm", .binary skipEqImm),
   ("SkipNeImm", .binary skipNeImm),
   ("SkipEqReg", .binary skipEqReg),
   ("LoadImm", .binary loadImm),
   ("AddImm", .binary addImm),
   ("Copy", .binary copy),
   ("Or", .binary or),
   ("And", .binary and),
   ("Xor", .binary xor),
   ("AddReg", .binary addReg),
   ("SubReg", .binary subReg),
   ("ShiftRight", .unary shiftRight),
   ("SubRegReverse", .binary subRegReverse),
   ("ShiftLeft", .unary shiftLeft),
   ("SkipNeReg", .binary skipNeReg),
   ("SetIndex", .address setIndex),
   ("JumpOffset", .address jumpOffset),
   ("Random", .binary random),
   ("Draw", .ternary draw),
   ("SkipKeyDown", .unary skipKeyDown),
   ("SkipKeyUp", .unary skipKeyUp),
   ("GetDelayTimer", .unary getDelayTimer),
   ("WaitKey", .unary waitKey),
   ("SetDelayTimer", .unary setDelayTimer),
   ("SetSoundTimer", .unary setSoundTimer),
   ("AddIndex", .unary addIndex),
   ("LoadFontAddr", .unary loadFontAddr),
   ("StoreBcd", .unary storeBcd),
   ("DumpRegisters", .unary dumpRegisters),
   ("LoadRegisters", .unary loadRegisters)]

/-- The instruction with the given name and operands. -/
def ofParts? (name : String) (operands : List Nat) : Option Instruction :=
  (formers.lookup name).bind (·.ofOperands? operands)

/-- The structural text, such as `Draw(7, 11, 0)`. -/
def inspect (i : Instruction) : String := Text.applied i.name (i.operands.map Text.decimal)

/-- The name and the operands determine the instruction. -/
theorem ofParts?_name_operands (i : Instruction) : ofParts? i.name i.operands = some i := by
  cases i <;> simp [ofParts?, formers, name, operands, List.lookup_cons, Former.ofOperands?]

end Chip8.Instruction
