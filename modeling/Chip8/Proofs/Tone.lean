import Mathlib.Tactic
import Chip8.Machine.Load
import Chip8.Proofs.Bench
import Chip8.Proofs.Loop

/-! Whether the tone is on when a run is over.

    After a stop it is SILENT, whatever the stop was. A device that fails ends the run at once, and
    then the tone is LEFT as the frame before it had left it: on, if the sound timer was still
    running (`tone_left_on`). -/

namespace Chip8.Console

open SoundDevice (Stops Sounds isBeeping)

variable {ι δ σ : Type} [InputDevice ι] [DisplayDevice δ] [SoundDevice σ]
variable {c : Console ι δ σ} {e : DeviceError} {k : Nat}

/-! ### What a frame does to the tone -/

/-- A frame leaves the tone alone, or gates it once, to where its cycle wants it. -/
theorem sound_frame (c : Console ι δ σ) :
    c.frame.console.sound = c.sound ∨
      ∃ on, c.frame.console.sound = (gate on c.sound).device := by
  rcases frame_cases c with ⟨e, log, hf⟩ | ⟨log, hf⟩ | ⟨e, log, hf⟩ | ⟨log, hf⟩ <;> rw [hf]
  · exact .inl rfl
  · exact .inl rfl
  · exact .inl rfl
  · exact .inr ⟨toneOf c.polled.machine.cycle, rfl⟩

/-- What every gate keeps of a tone, a frame keeps. -/
theorem keeps_frame {P : σ → Prop} (gated : ∀ d on, P d → P (gate on d).device) (h : P c.sound) :
    P c.frame.console.sound := by
  rcases sound_frame c with hs | ⟨on, hs⟩
  · rwa [hs]
  · rw [hs]
    exact gated c.sound on h

theorem keeps_frames {P : σ → Prop} (gated : ∀ d on, P d → P (gate on d).device) (h : P c.sound)
    (n : Nat) : P (frames n c).sound := by
  induction n generalizing c with
  | zero => exact h
  | succ n ih => exact ih (keeps_frame gated h)

theorem stops_frames (h : Stops c.sound) (n : Nat) : Stops (frames n c).sound :=
  keeps_frames (P := Stops) (fun _ on hd => SoundDevice.stops_gate hd on) h n

theorem sounds_frames (h : Sounds c.sound) (n : Nat) : Sounds (frames n c).sound :=
  keeps_frames (P := Sounds) (fun _ on hd => SoundDevice.sounds_gate hd on) h n

/-- A frame after which the run goes on leaves the tone on exactly if the sound timer runs. -/
theorem isBeeping_frame (hstops : Stops c.sound) (hsounds : Sounds c.sound)
    (h : c.frame.result = .ok none) :
    isBeeping c.frame.console.sound = c.frame.console.machine.toneActive := by
  obtain ⟨-, hgate, hconsole⟩ := frame_of_none h
  rw [hconsole]
  exact SoundDevice.isBeeping_gate hstops hsounds hgate

/-- A gate that fails is a tone that failed to begin. -/
theorem gate_of_failure {d : σ} {on : Bool} (hstops : Stops d)
    (h : (gate on d).result = .error e) :
    (SoundDevice.beep d).1 = .error e ∧ (gate on d).device = (SoundDevice.beep d).2 := by
  rcases SoundDevice.gate_cases on d with ⟨-, hg⟩ | ⟨-, call, -, hg⟩
  · rw [hg] at h
    cases h
  · rw [hg] at h ⊢
    cases on with
    | true => exact ⟨h, rfl⟩
    | false =>
      have hok : (SoundDevice.turn d false).1 = .ok () := (hstops []).1
      rw [hok] at h
      cases h

/-- A frame that fails leaves the tone alone, unless it is the tone that failed to begin. -/
theorem sound_of_failure (hstops : Stops c.sound) (h : c.frame.result = .error e) :
    c.frame.console.sound = c.sound ∨
      (SoundDevice.beep c.sound).1 = .error e ∧
        c.frame.console.sound = (SoundDevice.beep c.sound).2 := by
  rcases frame_cases c with ⟨e', log, hf⟩ | ⟨log, hf⟩ | ⟨e', log, hf⟩ | ⟨log, hf⟩ <;> rw [hf] at h ⊢
  · exact .inl rfl
  · exact .inl rfl
  · exact .inl rfl
  · right
    cases hg : (gate (toneOf c.polled.machine.cycle) c.sound).result with
    | ok _ =>
      rw [hg] at h
      cases h
    | error e' =>
      rw [hg] at h
      cases h
      exact gate_of_failure hstops hg

/-- Before a frame of a run the tone is on exactly if the sound timer runs, or, before the first
frame, if it was on before the run. -/
theorem isBeeping_frames (hstops : Stops c.sound) (hsounds : Sounds c.sound)
    (hgo : ∀ j < k, (frames j c).frame.result = .ok none) :
    isBeeping (frames k c).sound =
      if k = 0 then isBeeping c.sound else (frames k c).machine.toneActive := by
  cases k with
  | zero => rfl
  | succ k =>
    rw [if_neg (Nat.succ_ne_zero k), frames_succ]
    exact isBeeping_frame (stops_frames hstops k) (sounds_frames hsounds k)
      (hgo k (Nat.lt_succ_self k))

/-! ### What a run leaves -/

theorem stops_pass (h : Stops c.sound) (limit : Option Nat) (done : Nat) :
    Stops (c.pass limit done).console.sound := by
  by_cases hl : limit = some done
  · rwa [pass_of_limit hl]
  · rw [pass_of_ne hl]
    exact keeps_frame (P := Stops) (fun _ on hd => SoundDevice.stops_gate hd on) h

/-- A pass that fails is a frame that fails. -/
theorem pass_of_failure {limit : Option Nat} {done : Nat}
    (h : (c.pass limit done).result = .error e) : c.pass limit done = c.frame := by
  refine pass_of_ne fun hl => ?_
  rw [pass_of_limit hl] at h
  cases h

/-- After a run that ended in a stop the tone is off. -/
theorem isBeeping_of_stop {config : Config} {fuel : Nat} {r : Report ι δ σ Stop} {stop : Stop}
    (hstops : Stops c.sound) (h : run config fuel c = some r) (hr : r.result = .ok stop) :
    isBeeping r.console.sound = false := by
  obtain ⟨k, -, hconsole, -, -⟩ := run_of_stop h hr
  rw [hconsole]
  exact (SoundDevice.isBeeping_gate_false
    (stops_pass (stops_frames hstops k) config.maxCycles k)).2

/-- SILENT after a stop: if the tone can be stopped, it is off when a run has ended in one. LEFT
after a failure: if the run ended because a device failed in a frame, and that was not the tone
failing to begin, then the tone is as it was before the frame, which is on exactly if the sound
timer was running then, or, in the first frame, if the tone was on before the run. -/
theorem tone_after_run {config : Config} {fuel : Nat} {r : Report ι δ σ Stop}
    (hstops : Stops c.sound) (hsounds : Sounds c.sound) (h : run config fuel c = some r) :
    (∀ stop, r.result = .ok stop → isBeeping r.console.sound = false) ∧
    ∀ e, r.result = .error e → ∃ k, polls r.calls = k + 1 ∧
      (∀ j < k, (frames j c).frame.result = .ok none) ∧
      (frames k c).frame.result = .error e ∧ r.console = (frames k c).frame.console ∧
      ((SoundDevice.beep (frames k c).sound).1 = .error e ∧
          r.console.sound = (SoundDevice.beep (frames k c).sound).2 ∨
        isBeeping r.console.sound =
          if k = 0 then isBeeping c.sound else (frames k c).machine.toneActive) := by
  refine ⟨fun stop hr => isBeeping_of_stop hstops h hr, ?_⟩
  intro e hr
  obtain ⟨r, hloop, rfl⟩ := Option.map_eq_some_iff.mp h
  obtain ⟨k, calls, log, last, hgo, hpolls, rfl, hlast⟩ := loop_cases hloop
  simp only [Nat.zero_add] at hgo hlast
  have hframes : ∀ j < k, (frames j c).frame.result = .ok none := fun j hj =>
    frame_of_pass (hgo j hj)
  rcases hlast with ⟨e', he, rfl⟩ | ⟨stop, -, rfl⟩
  · cases hr
    have hframe := pass_of_failure he
    rw [hframe] at he ⊢
    refine ⟨k, ?_, hframes, he, rfl, ?_⟩
    · show polls ([] ++ (calls ++ (frames k c).frame.calls)) = k + 1
      rw [List.nil_append, polls_append, hpolls, polls_frame]
    · rcases sound_of_failure (stops_frames hstops k) he with hs | hbeep
      · right
        show isBeeping (frames k c).frame.console.sound = _
        rw [hs]
        exact isBeeping_frames hstops hsounds hframes
      · exact .inl hbeep
  · -- the tone of a stop can be silenced, so it is not there that the run failed
    obtain ⟨hgate, -⟩ := SoundDevice.isBeeping_gate_false
      (stops_pass (stops_frames hstops k) config.maxCycles k)
    rw [finish_of_ok hgate] at hr
    cases hr

/-- A program starts the tone. The limit ends the run while it sounds, and it is off afterwards; a
display that fails ends it in the frame that failed. -/
theorem tone_after_run_limit :
    let machine := ((Machine.powerOn (.ofSeed 0)).load [0x60, 0x05, 0xf0, 0x18, 0x12, 0x04]).machine
    let c : Console HeldKeys FrameCounter SilentTone := ⟨machine, { keys := [] }, {}, {}⟩
    let c' : Console HeldKeys FrameCounter SilentTone := { c with display := { failAfter := some 2 } }
    Stops c.sound ∧ Sounds c.sound ∧ isBeeping (frames 3 c).sound = true ∧
      (∃ r, run { maxCycles := some 3 } 4 c = some r ∧ r.result = .ok .cycleLimit ∧
        isBeeping r.console.sound = false) ∧
      ∃ r k, run {} 3 c' = some r ∧ r.result = .error ⟨"display failed"⟩ ∧
        polls r.calls = k + 1 ∧ r.console = (frames k c').frame.console := by
  intro machine c c'
  have hstops : Stops c.sound := stops_silentTone rfl
  have hsounds : Sounds c.sound := sounds_silentTone _
  have hrun : (run { maxCycles := some 3 } 4 c).map (·.result) = some (.ok .cycleLimit) := by
    decide +kernel
  have hrun' : (run {} 3 c').map (·.result) = some (.error ⟨"display failed"⟩) := by decide +kernel
  obtain ⟨r, hr, hstop⟩ := Option.map_eq_some_iff.mp hrun
  obtain ⟨r', hr', herror⟩ := Option.map_eq_some_iff.mp hrun'
  obtain ⟨hoff, -⟩ := tone_after_run hstops hsounds hr
  obtain ⟨-, hleft⟩ := tone_after_run (c := c') hstops hsounds hr'
  obtain ⟨k, hpolls, -, -, hconsole, -⟩ := hleft _ herror
  exact ⟨hstops, hsounds, by decide +kernel, ⟨r, hr, hstop, hoff _ hstop⟩,
    r', k, hr', herror, hpolls, hconsole⟩

/-- The same tone is still on after a run that ended because the display failed. -/
theorem tone_left_on :
    let machine := ((Machine.powerOn (.ofSeed 0)).load [0x60, 0x05, 0xf0, 0x18, 0x12, 0x04]).machine
    let c : Console HeldKeys FrameCounter SilentTone :=
      ⟨machine, { keys := [] }, { failAfter := some 2 }, {}⟩
    Stops c.sound ∧ ∃ r, run {} 3 c = some r ∧ r.result = .error ⟨"display failed"⟩ ∧
      isBeeping r.console.sound = true := by
  intro machine c
  have hrun : (run {} 3 c).map (fun r => (r.result, isBeeping r.console.sound)) =
      some (.error ⟨"display failed"⟩, true) := by decide +kernel
  obtain ⟨r, hr, hleft⟩ := Option.map_eq_some_iff.mp hrun
  obtain ⟨hresult, hon⟩ := Prod.mk.inj hleft
  exact ⟨stops_silentTone rfl, r, hr, hresult, hon⟩

end Chip8.Console
