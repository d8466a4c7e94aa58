import Chip8.Instruction.Pattern
import Chip8.Machine.Cycle

/-! The two TIMERS of a machine under one name. Each is set by the words of a pattern of its own, and
    runs down while the machine goes on, also by cycles that take it nowhere else. -/

namespace Chip8

/-- A timer. -/
inductive Timer
  | delay
  | sound
  deriving DecidableEq, Repr

/-- The pattern of the words that set a timer to `VX`. -/
def Timer.pattern : Timer → String
  | delay => "FX15"
  | sound => "FX18"

namespace Machine

/-- What a timer stands at. -/
def timer (m : Machine) : Timer → UInt8
  | .delay => m.delayTimer
  | .sound => m.soundTimer

/-- Whether the word at the program counter sets a timer. -/
def sets (m : Machine) (t : Timer) : Bool := Pattern.fits t.pattern m.nextWord

/-- The machine with another keypad and with its timers run down by some cycles, to zero at the
lowest. -/
def idled (m : Machine) (keypad : Keypad) (n : Nat) : Machine :=
  { m with
    keypad
    delayTimer := .ofNat (m.delayTimer.toNat - n)
    soundTimer := .ofNat (m.soundTimer.toNat - n) }

end Machine

end Chip8
