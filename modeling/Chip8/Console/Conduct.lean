import Chip8.Console.Frame

/-! What devices do over many calls, and a console over many frames.

    An input is polled again and again with the keypad it left itself, because a machine only reads
    its keypad. A display and a tone are said to work if no call fails, whatever came before. -/

namespace Chip8

namespace Console

open Terminal (Control)

/-! ### Devices -/

namespace InputDevice

variable {ι : Type} [InputDevice ι]

/-- An input and the keypad it left, after some updates. -/
def polled (d : ι) (keypad : Keypad) : Nat → ι × Keypad
  | 0 => (d, keypad)
  | n + 1 =>
    let u := update (polled d keypad n).1 (polled d keypad n).2
    (u.device, u.keypad)

/-- What an input answers to an update after some others. -/
def poll (d : ι) (keypad : Keypad) (n : Nat) : InputReport ι :=
  update (polled d keypad n).1 (polled d keypad n).2

/-- No update ever fails. -/
def Works (d : ι) (keypad : Keypad) : Prop := ∀ n, ∃ control, (poll d keypad n).result = .ok control

end InputDevice

namespace DisplayDevice

variable {δ : Type} [DisplayDevice δ]

/-- A display after it was given some frames. -/
def shown (d : δ) (frames : List Grid) : δ := frames.foldl (fun d frame => (draw d frame).2) d

/-- No draw ever fails. -/
def Works (d : δ) : Prop := ∀ frames frame, (draw (shown d frames) frame).1 = .ok ()

end DisplayDevice

namespace SoundDevice

variable {σ : Type} [SoundDevice σ]

/-- Tell a tone to begin or to end. -/
def turn (d : σ) (on : Bool) : Except DeviceError Unit × σ := if on then beep d else stop d

/-- A tone after it was told to begin and to end some times. -/
def turned (d : σ) (turns : List Bool) : σ := turns.foldl (fun d on => (turn d on).2) d

/-- No call ever fails. -/
def Works (d : σ) : Prop := ∀ turns on, (turn (turned d turns) on).1 = .ok ()

/-- To end the tone always succeeds, and the device then says that it is off. -/
def Stops (d : σ) : Prop :=
  ∀ turns, (stop (turned d turns)).1 = .ok () ∧ isBeeping (stop (turned d turns)).2 = false

/-- Where to begin the tone succeeds, the device says that it is on. -/
def Sounds (d : σ) : Prop :=
  ∀ turns, (beep (turned d turns)).1 = .ok () → isBeeping (beep (turned d turns)).2 = true

/-- A count of the tone goes up by one when the tone begins, and is left alone when it ends. -/
def Counts (d : σ) (count : σ → Nat) : Prop :=
  ∀ turns, count (beep (turned d turns)).2 = count (turned d turns) + 1 ∧
    count (stop (turned d turns)).2 = count (turned d turns)

end SoundDevice

/-! ### Frames -/

/-- Whether a call is an update of the input. -/
def DeviceCall.isUpdate : DeviceCall → Bool
  | .update _ => true
  | _ => false

/-- How often the input was polled. -/
def polls (calls : List DeviceCall) : Nat := calls.countP DeviceCall.isUpdate

variable {ι δ σ : Type} [InputDevice ι] [DisplayDevice δ] [SoundDevice σ]

/-- The console after some frames, whatever they answered. -/
def frames : Nat → Console ι δ σ → Console ι δ σ
  | 0, c => c
  | n + 1, c => frames n c.frame.console

end Console

end Chip8
