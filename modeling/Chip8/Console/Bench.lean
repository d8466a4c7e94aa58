import Chip8.Console.Device
import Chip8.Terminal.Picture

/-! Devices: those of a terminal, and some for a bench, which follow a script, count what happens to
    them, or fail when told to. -/

namespace Chip8.Console

open Terminal (HostEvent Keyboard Picture)

/-! ### Inputs -/

/-- An input that holds the same keys down, and asks to quit after some updates. -/
structure HeldKeys where
  keys : List UInt8
  updates : Nat := 0
  quitAfter : Option Nat := none

instance : InputDevice HeldKeys where
  update d keypad :=
    if d.quitAfter = some d.updates then ⟨.ok .quit, d, keypad, []⟩
    else ⟨.ok .proceed, { d with updates := d.updates + 1 }, Keypad.ofKeys d.keys, []⟩

/-- What a scripted input does at one update. -/
inductive ScriptEntry
  /-- Hold exactly these keys. -/
  | keys (keys : List UInt8)
  /-- Leave the keypad as it is. -/
  | leave
  | quit
  | fail (reason : String)
  deriving DecidableEq, Repr

/-- An input that follows a script and then leaves the keypad as it is. -/
structure Script where
  entries : List ScriptEntry

instance : InputDevice Script where
  update d keypad :=
    match d.entries with
    | [] => ⟨.ok .proceed, d, keypad, []⟩
    | .keys keys :: rest => ⟨.ok .proceed, ⟨rest⟩, Keypad.ofKeys keys, []⟩
    | .leave :: rest => ⟨.ok .proceed, ⟨rest⟩, keypad, []⟩
    | .quit :: rest => ⟨.ok .quit, ⟨rest⟩, keypad, []⟩
    | .fail reason :: rest => ⟨.error ⟨reason⟩, ⟨rest⟩, keypad, []⟩

instance : InputDevice Keyboard where
  update d _ :=
    let u := d.update
    ⟨.ok u.control, u.keyboard, u.keypad, u.warnings.map .keyboard⟩

/-- A keyboard, and what will be typed on it before each of the next updates. -/
structure Typist where
  keyboard : Keyboard
  frames : List (List HostEvent)

instance : InputDevice Typist where
  update d keypad :=
    let r := InputDevice.update (d.keyboard.type (d.frames.headD [])) keypad
    ⟨r.result, ⟨r.device, d.frames.tail⟩, r.keypad, r.log⟩

/-! ### Displays -/

/-- A display that counts frames and keeps the last one; it fails for good after `failAfter` of
them. -/
structure FrameCounter where
  frames : Nat := 0
  last : Option Grid := none
  failAfter : Option Nat := none

instance : DisplayDevice FrameCounter where
  draw d grid :=
    if d.failAfter = some d.frames then (.error ⟨"display failed"⟩, d)
    else (.ok (), { d with frames := d.frames + 1, last := some grid })

instance : DisplayDevice Picture where
  draw p grid := (.ok (), p.draw grid)

/-! ### Tones -/

/-- A silent tone that counts how often it would have begun; it fails to begin or to end when told
to. -/
structure SilentTone where
  isBeeping : Bool := false
  beeps : Nat := 0
  beepFails : Bool := false
  stopFails : Bool := false

instance : SoundDevice SilentTone where
  beep d :=
    if d.beepFails then (.error ⟨"beep failed"⟩, d)
    else (.ok (), { d with isBeeping := true, beeps := d.beeps + 1 })
  stop d :=
    if d.stopFails then (.error ⟨"stop failed"⟩, d) else (.ok (), { d with isBeeping := false })
  isBeeping d := d.isBeeping

/-- A silent tone of which some calls fail, told by their number, and change nothing but that. -/
structure FickleTone where
  tone : SilentTone := {}
  calls : Nat := 0
  fails : Nat → Bool

instance : SoundDevice FickleTone where
  beep d :=
    let d' := { d with calls := d.calls + 1 }
    if d.fails d.calls then (.error ⟨"beep failed"⟩, d')
    else (.ok (), { d' with tone.isBeeping := true, tone.beeps := d.tone.beeps + 1 })
  stop d :=
    let d' := { d with calls := d.calls + 1 }
    if d.fails d.calls then (.error ⟨"stop failed"⟩, d')
    else (.ok (), { d' with tone.isBeeping := false })
  isBeeping d := d.tone.isBeeping

/-- The speaker of the computer. -/
structure Speaker where
  isBeeping : Bool := false

instance : SoundDevice Speaker where
  beep _ := (.ok (), ⟨true⟩)
  stop _ := (.ok (), ⟨false⟩)
  isBeeping d := d.isBeeping

end Chip8.Console
