import Chip8.Fault
import Chip8.Instruction.Mnemonic

/-! What a machine reports while it works, as values, with the level and the text of each. -/

namespace Chip8

/-- How much a report matters, the gravest first. -/
inductive Level
  | error | warn | info | debug | trace
  deriving DecidableEq, Repr

/-- The name of a level. -/
def Level.name : Level → String
  | error => "error"
  | warn => "warn"
  | info => "info"
  | debug => "debug"
  | trace => "trace"

namespace Machine

/-- Something a machine reports. -/
inductive Event
  /-- A program of `length` bytes was loaded. -/
  | loaded (length : Nat)
  /-- The machine went back to power-on state. -/
  | reset
  /-- An instruction was decoded from `word` at `pc` and is about to be executed. -/
  | executing (pc : UInt16) (word : Word) (instruction : Instruction)
  /-- A fault stopped the machine. -/
  | halted (fault : Fault)
  deriving DecidableEq, Repr

namespace Event

/-- How much an event matters. -/
def level : Event → Level
  | loaded _ => .debug
  | reset => .debug
  | executing .. => .trace
  | halted _ => .error

/-- The text of an event. -/
def text : Event → String
  | loaded length => "loaded " ++ Text.decimal length ++ " byte program at 0x200"
  | reset => "reset"
  | executing pc word instruction =>
    Text.hex 3 pc.toNat ++ ": " ++ Text.hex 4 word.toNat ++ "  " ++ instruction.mnemonic
  | halted fault => "halted: " ++ fault.message

end Event

end Machine

end Chip8
