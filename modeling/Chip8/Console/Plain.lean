import Chip8.Console.Conduct

/-! The PLAIN run of a machine: no devices, only a plan of what its input will say.

    Before each cycle the plan gives a keypad or asks to quit. The run stops at the limit, at a
    quit or at a fault, and where more than one of them holds, the first of these three counts. -/

namespace Chip8

open Console (Stop)
open Terminal (Control)

/-- What an input says at each update: whether to go on, and with which keypad. -/
abbrev Plan := Nat → Control × Keypad

/-- An input with its keypad says what the plan has, and never fails. -/
def Plan.Follows {ι : Type} [Console.InputDevice ι] (plan : Plan) (d : ι) (keypad : Keypad) : Prop :=
  ∀ n, (Console.InputDevice.poll d keypad n).result = .ok (plan n).1 ∧
    (Console.InputDevice.poll d keypad n).keypad = (plan n).2

namespace Machine

/-- The machine with the keypad that the plan has for a cycle. -/
def pressed (m : Machine) (plan : Plan) (n : Nat) : Machine := { m with keypad := (plan n).2 }

/-- The machine after some cycles, each with the keypad that the plan has for it. -/
def driven (m : Machine) (plan : Plan) : Nat → Machine
  | 0 => m
  | n + 1 => ((m.driven plan n).pressed plan n).cycle.machine

end Machine

end Chip8
