import Chip8.Console.Event
import Chip8.Grid
import Chip8.Keypad

/-! The three devices of a console: an input, a display and a tone.

    A device is a state and what each call does to it, and every call can fail. The tone follows the
    sound timer through `gate`, which calls the device only when it has to change. -/

namespace Chip8.Console

open Terminal (Control)

/-- Why a device failed, in its own words. -/
structure DeviceError where
  reason : String
  deriving DecidableEq, Repr

/-- A call to a device that succeeded if `ok`. -/
inductive DeviceCall
  | update (ok : Bool)
  | draw (frame : Grid) (ok : Bool)
  | beep (ok : Bool)
  | stop (ok : Bool)
  deriving DecidableEq

/-- The name of the device, or of what it was told to do. -/
def DeviceCall.name : DeviceCall → String
  | update _ => "input"
  | draw .. => "draw"
  | beep _ => "beep"
  | stop _ => "stop"

/-- What an input leaves behind after an update. -/
structure InputReport (ι : Type) where
  result : Except DeviceError Control
  device : ι
  keypad : Keypad
  log : List Event

/-- A device that brings the keypad up to date. -/
class InputDevice (ι : Type) where
  update : ι → Keypad → InputReport ι

/-- A device that shows the screen. -/
class DisplayDevice (δ : Type) where
  draw : δ → Grid → Except DeviceError Unit × δ

/-- A tone that is on or off. -/
class SoundDevice (σ : Type) where
  beep : σ → Except DeviceError Unit × σ
  stop : σ → Except DeviceError Unit × σ
  isBeeping : σ → Bool

/-- Whether a call succeeded. -/
def isOk (r : Except DeviceError Unit) : Bool :=
  match r with
  | .ok _ => true
  | .error _ => false

/-- What a gated tone leaves behind. -/
structure GateReport (σ : Type) where
  result : Except DeviceError Unit
  device : σ
  calls : List DeviceCall

/-- Turn the tone on or off, calling the device only on a change. -/
def gate {σ : Type} [SoundDevice σ] (on : Bool) (device : σ) : GateReport σ :=
  match on, SoundDevice.isBeeping device with
  | true, false =>
    let (result, device) := SoundDevice.beep device
    ⟨result, device, [.beep (isOk result)]⟩
  | false, true =>
    let (result, device) := SoundDevice.stop device
    ⟨result, device, [.stop (isOk result)]⟩
  | _, _ => ⟨.ok (), device, []⟩

/-- A tone that is as it should be is left alone. -/
theorem gate_of_eq {σ : Type} [SoundDevice σ] {on : Bool} {device : σ}
    (h : SoundDevice.isBeeping device = on) : gate on device = ⟨.ok (), device, []⟩ := by
  cases on <;> simp [gate, h]

end Chip8.Console
