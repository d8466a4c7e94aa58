import Chip8.Machine.Event
import Chip8.Terminal.Keyboard
import Chip8.Decimal.Double

/-! Why a console stops, and what it reports while it runs. -/

namespace Chip8.Console

/-- Why a run of frames ended. -/
inductive Stop
  /-- The input asked to quit. -/
  | quit
  /-- The number of cycles allowed was reached. -/
  | cycleLimit
  /-- The machine stopped. -/
  | fault (fault : Fault)
  deriving DecidableEq, Repr

/-- The text of a stop. -/
def Stop.inspect : Stop → String
  | quit => "Quit"
  | cycleLimit => "CycleLimit"
  | fault f => Text.applied "Fault" [f.inspect]

/-- Something a console reports. -/
inductive Event
  | machine (event : Machine.Event)
  | keyboard (warning : Terminal.Warning)
  /-- A run begins, at a number of cycles a second. -/
  | running (hz : Float)
  /-- A run ended after a number of cycles. -/
  | stopped (cycles : Nat) (stop : Stop)

namespace Event

/-- How much an event matters. -/
def level : Event → Level
  | machine e => e.level
  | keyboard _ => .warn
  | running _ => .debug
  | stopped .. => .info

/-- The text of an event. -/
def text : Event → String
  | machine e => e.text
  | keyboard w => w.text
  | running hz => "running at " ++ Decimal.ofDouble hz ++ "Hz"
  | stopped cycles stop =>
    "stopped after " ++ Text.decimal cycles ++ " cycles: " ++ stop.inspect

end Event

end Chip8.Console
