import Mathlib.Tactic
import Chip8.Console.Bench
import Chip8.Console.Plain
import Chip8.Proofs.Frame

/-! The devices of the bench do what is asked of them, unless they were told to fail. -/

namespace Chip8.Console

variable {d : HeldKeys} {s : FrameCounter} {t : SilentTone}

/-- Held keys that never quit are a plan that is the same at every update. -/
theorem follows_heldKeys (h : d.quitAfter = none) (keypad : Keypad) :
    Plan.Follows (fun _ => (.proceed, Keypad.ofKeys d.keys)) d keypad := by
  have update (d' : HeldKeys) (hq : d'.quitAfter = none) (keypad : Keypad) :
      InputDevice.update d' keypad =
        ⟨.ok .proceed, { d' with updates := d'.updates + 1 }, Keypad.ofKeys d'.keys, []⟩ := by
    simp [InputDevice.update, hq]
  have hpolled (n : Nat) : (InputDevice.polled d keypad n).1.quitAfter = none ∧
      (InputDevice.polled d keypad n).1.keys = d.keys := by
    induction n with
    | zero => exact ⟨h, rfl⟩
    | succ n ih =>
      rw [InputDevice.polled, update _ ih.1]
      exact ih
  intro n
  obtain ⟨hquit, hkeys⟩ := hpolled n
  rw [InputDevice.poll, update _ hquit, hkeys]
  exact ⟨rfl, rfl⟩

theorem works_frameCounter (h : s.failAfter = none) : DisplayDevice.Works s := by
  have draw (s' : FrameCounter) (frame : Grid) (h' : s'.failAfter = none) :
      DisplayDevice.draw s' frame = (.ok (), { s' with frames := s'.frames + 1, last := frame }) := by
    simp [DisplayDevice.draw, h']
  intro frames frame
  have hshown : (DisplayDevice.shown s frames).failAfter = none :=
    DisplayDevice.shown_induction (P := fun s' : FrameCounter => s'.failAfter = none)
      (fun s' frame h' => by rw [draw s' frame h']; exact h') h frames
  rw [draw _ frame hshown]

/-! ### The silent tone -/

/-- A silent tone that was not told to fail. -/
structure SilentTone.Sound (t : SilentTone) : Prop where
  beep : t.beepFails = false
  stop : t.stopFails = false

theorem turn_silentTone (t : SilentTone) (on : Bool) :
    (SoundDevice.turn t on).2.beepFails = t.beepFails ∧
      (SoundDevice.turn t on).2.stopFails = t.stopFails := by
  cases on with
  | true => cases h : t.beepFails <;> simp [SoundDevice.turn, SoundDevice.beep, h]
  | false => cases h : t.stopFails <;> simp [SoundDevice.turn, SoundDevice.stop, h]

theorem turned_silentTone (t : SilentTone) (turns : List Bool) :
    (SoundDevice.turned t turns).beepFails = t.beepFails ∧
      (SoundDevice.turned t turns).stopFails = t.stopFails :=
  SoundDevice.turned_induction
    (P := fun t' : SilentTone => t'.beepFails = t.beepFails ∧ t'.stopFails = t.stopFails)
    (fun t' on h => ⟨(turn_silentTone t' on).1.trans h.1, (turn_silentTone t' on).2.trans h.2⟩)
    ⟨rfl, rfl⟩ turns

theorem stops_silentTone (h : t.stopFails = false) : SoundDevice.Stops t := by
  intro turns
  have hs := (turned_silentTone t turns).2.trans h
  simp [SoundDevice.stop, SoundDevice.isBeeping, hs]

theorem sounds_silentTone (t : SilentTone) : SoundDevice.Sounds t := by
  intro turns h
  cases hb : (SoundDevice.turned t turns).beepFails with
  | true => simp [SoundDevice.beep, hb] at h
  | false => simp [SoundDevice.beep, SoundDevice.isBeeping, hb]

theorem works_silentTone (h : t.Sound) : SoundDevice.Works t := by
  intro turns on
  obtain ⟨hb, hs⟩ := turned_silentTone t turns
  cases on with
  | true => simp [SoundDevice.turn, SoundDevice.beep, hb, h.beep]
  | false => simp [SoundDevice.turn, SoundDevice.stop, hs, h.stop]

/-- A silent tone counts how often it began. -/
theorem counts_silentTone (h : t.Sound) : SoundDevice.Counts t SilentTone.beeps := by
  intro turns
  obtain ⟨hb, hs⟩ := turned_silentTone t turns
  constructor
  · simp [SoundDevice.beep, hb, h.beep]
  · simp [SoundDevice.stop, hs, h.stop]

end Chip8.Console
