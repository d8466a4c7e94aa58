import Chip8.Memory
import Chip8.Grid
import Chip8.Keypad
import Chip8.Random
import Chip8.Machine.Event

/-! The state of a machine, and what an operation on it leaves behind.

    A program sees sixteen byte registers, the last of which is the flag, an index into memory, two
    timers and at most sixteen return addresses that lie outside memory. The machine also keeps the
    program it was last given, for `reset`, and the fault that stopped it, if one did.

    An operation answers with an `Outcome`, which holds the machine also after a fault: that a fault
    leaves no other trace is a law about the operations and not a matter of their type. -/

namespace Chip8

/-- The state of a machine. -/
structure Machine where
  memory : Memory
  /-- The program that a reset loads again. -/
  program : List UInt8
  registers : Bank UInt8
  index : UInt16
  pc : UInt16
  /-- The return addresses, the latest first. -/
  stack : List UInt16
  delayTimer : UInt8
  soundTimer : UInt8
  grid : Grid
  keypad : Keypad
  random : Random
  /-- The fault that stopped the machine. -/
  fault : Option Fault
  deriving DecidableEq

/-- What an operation leaves behind: its result, the machine, and what was reported meanwhile. -/
structure Outcome (ε α : Type) where
  result : Except ε α
  machine : Machine
  log : List Machine.Event

namespace Outcome

variable {ε α β : Type}

/-- Go on with the value and the machine of an operation that succeeded. -/
def andThen (o : Outcome ε α) (next : α → Machine → Outcome ε β) : Outcome ε β :=
  match o.result with
  | .error e => ⟨.error e, o.machine, o.log⟩
  | .ok a =>
    let o' := next a o.machine
    ⟨o'.result, o'.machine, o.log ++ o'.log⟩

/-- Whether the operation succeeded. -/
def succeeded (o : Outcome ε α) : Bool :=
  match o.result with
  | .ok _ => true
  | .error _ => false

theorem andThen_of_ok {o : Outcome ε α} {next : α → Machine → Outcome ε β} {a : α}
    (h : o.result = .ok a) :
    o.andThen next =
      ⟨(next a o.machine).result, (next a o.machine).machine,
        o.log ++ (next a o.machine).log⟩ := by
  simp [andThen, h]

theorem andThen_of_error {o : Outcome ε α} {next : α → Machine → Outcome ε β} {e : ε}
    (h : o.result = .error e) : o.andThen next = ⟨.error e, o.machine, o.log⟩ := by
  simp [andThen, h]

end Outcome

namespace Machine

/-- How many return addresses the stack holds. -/
def stackLimit : Nat := 16

/-- A machine as it is switched on, without a program. -/
def powerOn (random : Random) : Machine where
  memory := Memory.powerOn
  program := []
  registers := Vector.replicate 16 0
  index := 0
  pc := Memory.programStart
  stack := []
  delayTimer := 0
  soundTimer := 0
  grid := Grid.dark
  keypad := Keypad.released
  random := random
  fault := none

/-- The value of the register that a byte names. -/
def reg (m : Machine) (x : UInt8) : UInt8 := m.registers.entry x

/-- The machine with the register that a byte names changed. -/
def setReg (m : Machine) (x value : UInt8) : Machine :=
  { m with registers := m.registers.setEntry x value }

/-- The machine with the flag register up or down. -/
def setFlag (m : Machine) (flag : Bool) : Machine := m.setReg 0xf (if flag then 1 else 0)

/-- Whether the tone should sound. -/
def toneActive (m : Machine) : Bool := m.soundTimer > 0

/-- Succeed with a value and report nothing. -/
def succeed {ε α : Type} (m : Machine) (a : α) : Outcome ε α := ⟨.ok a, m, []⟩

/-- Fail and report nothing. -/
def fail {ε α : Type} (m : Machine) (e : ε) : Outcome ε α := ⟨.error e, m, []⟩

/-! ### Registers -/

theorem reg_setReg (m : Machine) (x y value : UInt8) :
    (m.setReg x value).reg y = if nibble x = nibble y then value else m.reg y :=
  Bank.entry_setEntry m.registers x y value

end Machine

end Chip8
