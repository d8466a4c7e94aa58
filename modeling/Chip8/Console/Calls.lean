import Chip8.Console.Moves
import Chip8.Machine.Draws

/-! The CALLS to the devices: in which order those of a frame come, what they leave of the devices,
    and what can be told from the record of a run.

    A record of calls tells of the devices only if it has all of them. So beside the order that
    calls come in (`InTurn`) it is said what the devices are after some calls and no others
    (`Called`). The calls of a run have every frame that the display was given; what it reported has
    every instruction that was executed, and so tells whether a random byte was drawn. -/

namespace Chip8.Console

namespace DeviceCall

/-- Whether a call succeeded. -/
def succeeded : DeviceCall → Bool
  | update ok | draw _ ok | beep ok | stop ok => ok

/-- The frame that a call gave to the display, whether or not it was shown. -/
def given? : DeviceCall → Option Grid
  | draw frame _ => some frame
  | _ => none

/-- What a call told the tone, whether or not it did so: to begin or to end. -/
def told? : DeviceCall → Option Bool
  | beep _ => some true
  | stop _ => some false
  | _ => none

@[simp] theorem succeeded_update (ok : Bool) : (update ok).succeeded = ok := rfl

@[simp] theorem succeeded_draw (frame : Grid) (ok : Bool) : (draw frame ok).succeeded = ok := rfl

@[simp] theorem succeeded_beep (ok : Bool) : (beep ok).succeeded = ok := rfl

@[simp] theorem succeeded_stop (ok : Bool) : (stop ok).succeeded = ok := rfl

end DeviceCall

/-- Calls that begin with the input, go on with the display and end with one to the tone, or break
off before; the first that fails is the last. -/
structure InTurn (calls : List DeviceCall) : Prop where
  order : ∃ tone ∈ ["beep", "stop"], calls.map DeviceCall.name <+: ["input", "draw", tone]
  broken : ∀ call ∈ calls.dropLast, call.succeeded = true

variable {ι δ σ : Type} [InputDevice ι] [DisplayDevice δ] [SoundDevice σ]

/-- The devices of a console are those of another after some calls, and after no others. -/
structure Called (c : Console ι δ σ) (calls : List DeviceCall) (c' : Console ι δ σ) : Prop where
  input : c'.input = (InputDevice.polled c.input c.machine.keypad (polls calls)).1
  display : c'.display = DisplayDevice.shown c.display (calls.filterMap DeviceCall.given?)
  sound : c'.sound = SoundDevice.turned c.sound (calls.filterMap DeviceCall.told?)

/-! ### The record of a run -/

/-- The frame that a call gave to the display, if the display took it. -/
def DeviceCall.frame? : DeviceCall → Option Grid
  | draw frame true => some frame
  | _ => none

/-- The frames that were shown, in order. -/
def framesOf (calls : List DeviceCall) : List Grid := calls.filterMap DeviceCall.frame?

/-- The frame that was shown last. -/
def lastShown? (calls : List DeviceCall) : Option Grid := (framesOf calls).getLast?

/-- Whether an event tells of an instruction that draws a random byte. -/
def Event.draws : Event → Bool
  | machine (.executing _ _ i) => i.draws
  | _ => false

/-- A run that executed no instruction that draws a random byte. -/
def Drawless (log : List Event) : Prop := ∀ e ∈ log, e.draws = false

end Chip8.Console
