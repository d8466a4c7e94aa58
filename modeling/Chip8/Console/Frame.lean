import Chip8.Console.Device
import Chip8.Machine.Cycle

/-! One frame of a console: read the input, run a cycle, show the screen, follow the sound timer.

    The screen is shown also when the cycle failed. The first device that fails ends the frame. -/

namespace Chip8

/-- A machine joined to its devices. -/
structure Console (ι δ σ : Type) where
  machine : Machine
  input : ι
  display : δ
  sound : σ

namespace Console

/-- What a console leaves behind: the result, the console, the calls to its devices, and what was
reported. -/
structure Report (ι δ σ α : Type) where
  result : Except DeviceError α
  console : Console ι δ σ
  calls : List DeviceCall
  log : List Event

variable {ι δ σ : Type} [InputDevice ι] [DisplayDevice δ] [SoundDevice σ]

/-- Turn the tone on or off and answer with `next` if that succeeds. -/
def gateWith (c : Console ι δ σ) (on : Bool) (next : Option Stop) : Report ι δ σ (Option Stop) :=
  let g := gate on c.sound
  ⟨g.result.map fun _ => next, { c with sound := g.device }, g.calls, []⟩

/-- Show the screen after a cycle, then follow the sound timer, or silence the tone at a fault. -/
def present (c : Console ι δ σ) (result : Except Fault Unit) : Report ι δ σ (Option Stop) :=
  let (drawn, display) := DisplayDevice.draw c.display c.machine.grid
  let c := { c with display }
  let call := DeviceCall.draw c.machine.grid (isOk drawn)
  match drawn with
  | .error e => ⟨.error e, c, [call], []⟩
  | .ok _ =>
    let r := match result with
      | .ok _ => c.gateWith c.machine.toneActive none
      | .error f => c.gateWith false (some (.fault f))
    { r with calls := call :: r.calls }

/-- Run a cycle and present what it leaves behind. -/
def advance (c : Console ι δ σ) : Report ι δ σ (Option Stop) :=
  let o := c.machine.cycle
  let r := { c with machine := o.machine }.present o.result
  { r with log := o.log.map .machine ++ r.log }

/-- One frame: the reason to stop, if there is one. -/
def frame (c : Console ι δ σ) : Report ι δ σ (Option Stop) :=
  let u := InputDevice.update c.input c.machine.keypad
  let c := { c with input := u.device, machine := { c.machine with keypad := u.keypad } }
  match u.result with
  | .error e => ⟨.error e, c, [.update false], u.log⟩
  | .ok .quit => ⟨.ok (some .quit), c, [.update true], u.log⟩
  | .ok .proceed =>
    let r := c.advance
    { r with calls := .update true :: r.calls, log := u.log ++ r.log }

end Console

end Chip8
