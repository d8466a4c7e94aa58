import Mathlib.Tactic
import Chip8.Console.Calls
import Chip8.Proofs.Edges
import Chip8.Proofs.Latch

/-! The PATHS through a frame, of which a device that fails cuts off the rest.

    The devices are called in turn, and none of them after one that failed (`inTurn_frame`,
    `called_frame`). But once the input has let a frame go on, its cycle is run whatever the display
    and the tone do. So a fault that a failing device kept out of the answer is not lost: it stays
    with the machine from move to move (`fault_moved`), and the next frame that
    is not cut off answers with it (`frame_of_stopped`). -/

namespace Chip8.Console

open SoundDevice (turn turned isBeeping)

/-! ### A gate -/

section Gate

variable {σ : Type} [SoundDevice σ] {d : σ}

/-- A gate leaves the tone that its calls leave. -/
theorem device_gate (on : Bool) (d : σ) :
    (gate on d).device = turned d ((gate on d).calls.filterMap DeviceCall.told?) := by
  by_cases hd : isBeeping d = on
  · rw [gate_of_eq hd]
    rfl
  · rw [gate_of_ne (Bool.eq_not_of_ne hd)]
    cases on <;> rfl

/-- A gate fails if a call of it does. -/
theorem gate_fails_iff (on : Bool) (d : σ) :
    (∃ e, (gate on d).result = .error e) ↔
      ∃ call ∈ (gate on d).calls, call.succeeded = false := by
  by_cases hd : isBeeping d = on
  · simp [gate_of_eq hd]
  · rw [gate_of_ne (Bool.eq_not_of_ne hd)]
    cases hr : (turn d on).1 <;> cases on <;>
      simp [DeviceCall.ofTurn, isOk]

theorem given_gate (on : Bool) (d : σ) :
    (gate on d).calls.filterMap DeviceCall.given? = [] := by
  rcases calls_gate on d with hg | ⟨ok, hg⟩ <;> rw [hg]
  · rfl
  · cases on <;> rfl

end Gate

variable {ι δ σ : Type} [InputDevice ι] [DisplayDevice δ] [SoundDevice σ]
variable {c : Console ι δ σ} {f : Fault}

/-! ### The calls of a frame -/

theorem inTurn_frame (c : Console ι δ σ) : InTurn c.frame.calls := by
  rcases frame_cases c with ⟨e, log, hf⟩ | ⟨log, hf⟩ | ⟨e, log, hf⟩ | ⟨log, hf⟩ <;> rw [hf]
  · exact ⟨⟨"beep", by simp, ["draw", "beep"], rfl⟩, by simp⟩
  · exact ⟨⟨"beep", by simp, ["draw", "beep"], rfl⟩, by simp⟩
  · exact ⟨⟨"beep", by simp, ["beep"], rfl⟩, by simp⟩
  · rcases calls_gate (toneOf c.polled.machine.cycle) c.sound with hg | ⟨ok, hg⟩ <;> rw [hg]
    · exact ⟨⟨"beep", by simp, ["beep"], rfl⟩, by simp⟩
    · refine ⟨?_, by simp⟩
      cases toneOf c.polled.machine.cycle with
      | true => exact ⟨"beep", by simp, [], rfl⟩
      | false => exact ⟨"stop", by simp, [], rfl⟩

/-- A record of a frame has all the calls to its devices. -/
theorem called_frame (c : Console ι δ σ) : Called c c.frame.calls c.frame.console := by
  have hpolls := polls_frame c
  rcases frame_cases c with ⟨e, log, hf⟩ | ⟨log, hf⟩ | ⟨e, log, hf⟩ | ⟨log, hf⟩ <;>
    rw [hf] at hpolls ⊢
  · exact ⟨rfl, rfl, rfl⟩
  · exact ⟨rfl, rfl, rfl⟩
  · exact ⟨rfl, rfl, rfl⟩
  · refine ⟨?_, ?_, device_gate (toneOf c.polled.machine.cycle) c.sound⟩
    · rw [hpolls]
      rfl
    · simp only [List.filterMap_cons, DeviceCall.given?, given_gate]
      rfl

/-- A frame fails if a call of it does. -/
theorem frame_fails_iff (c : Console ι δ σ) :
    (∃ e, c.frame.result = .error e) ↔ ∃ call ∈ c.frame.calls, call.succeeded = false := by
  rcases frame_cases c with ⟨e, log, hf⟩ | ⟨log, hf⟩ | ⟨e, log, hf⟩ | ⟨log, hf⟩ <;> rw [hf]
  · simp
  · simp
  · simp
  · simp only [List.exists_mem_cons_iff, DeviceCall.succeeded_update, DeviceCall.succeeded_draw,
      Bool.true_eq_false, false_or, ← gate_fails_iff]
    cases (gate (toneOf c.polled.machine.cycle) c.sound).result <;> simp [Except.map]

/-! ### Cut off or not -/

/-- A frame that its input cuts off runs no cycle, and leaves the other devices alone. -/
theorem frame_of_cut (h : (InputDevice.update c.input c.machine.keypad).result ≠ .ok .proceed) :
    c.frame.result =
        (InputDevice.update c.input c.machine.keypad).result.map (fun _ => some .quit) ∧
      c.frame.log = (InputDevice.update c.input c.machine.keypad).log ∧
      c.frame.console = c.polled := by
  cases hu : (InputDevice.update c.input c.machine.keypad).result with
  | error e =>
    rw [frame_of_error hu]
    exact ⟨rfl, rfl, rfl⟩
  | ok control =>
    cases control with
    | quit =>
      rw [frame_of_quit hu]
      exact ⟨rfl, rfl, rfl⟩
    | proceed => exact absurd hu h

/-- A frame that its input lets go on runs one cycle and gives its screen to the display. -/
theorem frame_of_uncut
    (hu : (InputDevice.update c.input c.machine.keypad).result = .ok .proceed) :
    c.frame.console.machine = c.polled.machine.cycle.machine ∧
      c.frame.log = (InputDevice.update c.input c.machine.keypad).log ++
        c.polled.machine.cycle.log.map .machine ∧
      ∃ ok rest, c.frame.calls =
        .update true :: .draw c.polled.machine.cycle.machine.grid ok :: rest := by
  rw [frame_of_proceed hu]
  refine ⟨machine_advance c.polled, ?_, ?_⟩ <;>
    rcases advance_cases c.polled with ⟨e, ha⟩ | ⟨-, ha⟩ <;> rw [ha]
  · exact ⟨false, [], rfl⟩
  · exact ⟨true, _, rfl⟩

/-! ### A machine that has stopped -/

/-- A frame keeps a fault, whatever becomes of its devices. -/
theorem fault_frame (h : c.machine.fault = some f) : c.frame.console.machine.fault = some f := by
  have hpolled : c.polled.machine.fault = some f := h
  have hcycle : c.polled.machine.cycle.machine.fault = some f := by
    rw [Machine.cycle_of_fault hpolled]
    exact hpolled
  by_cases hu : (InputDevice.update c.input c.machine.keypad).result = .ok .proceed
  · rw [(frame_of_uncut hu).1]
    exact hcycle
  · rw [(frame_of_cut hu).2.2]
    exact hpolled

theorem fault_move (h : c.machine.fault = some f) (m : Move) :
    (c.move m).1.machine.fault = some f := by
  cases m with
  | frame => exact fault_frame h
  | silence => exact h

/-- So it stays through any moves. -/
theorem fault_moved (h : c.machine.fault = some f) (ms : List Move) :
    (c.moved ms).machine.fault = some f := by
  induction ms generalizing c with
  | nil => exact h
  | cons m rest ih => exact ih (fault_move h m)

/-- A frame whose cycle fails answers with the fault unless the display or the tone is in the
way. -/
theorem frame_fault_iff
    (hu : (InputDevice.update c.input c.machine.keypad).result = .ok .proceed)
    (hr : c.polled.machine.cycle.result = .error f) :
    c.frame.result = .ok (some (.fault f)) ↔
      (DisplayDevice.draw c.display c.polled.machine.cycle.machine.grid).1 = .ok () ∧
        (gate false c.sound).result = .ok () := by
  have htone : toneOf c.polled.machine.cycle = false := by rw [toneOf, hr]
  rw [frame_of_proceed hu]
  cases hd : (DisplayDevice.draw c.polled.display c.polled.machine.cycle.machine.grid).1 with
  | error e =>
    have hblind : (DisplayDevice.draw c.display c.polled.machine.cycle.machine.grid).1 =
        .error e := hd
    rw [advance_of_blind hd, hblind]
    simp
  | ok _ =>
    have hdrawn : (DisplayDevice.draw c.display c.polled.machine.cycle.machine.grid).1 =
        .ok () := hd
    rw [advance_of_drawn hd, hdrawn, htone, hr]
    show Except.map _ (gate false c.sound).result = _ ↔ _
    cases (gate false c.sound).result <;> simp [Except.map, stopOf]

/-- A frame whose cycle fails has no other answer than the fault. -/
theorem frame_of_fault {s : Option Stop}
    (hu : (InputDevice.update c.input c.machine.keypad).result = .ok .proceed)
    (hr : c.polled.machine.cycle.result = .error f) (hs : c.frame.result = .ok s) :
    s = some (.fault f) := by
  rw [frame_of_proceed hu] at hs
  rw [stop_advance hs, hr]
  rfl

/-- A frame that answers at all was asked to quit, or its input let it go on. -/
theorem proceeds_of_ok {s : Option Stop} (hs : c.frame.result = .ok s) :
    s = some .quit ∨ (InputDevice.update c.input c.machine.keypad).result = .ok .proceed := by
  by_cases hu : (InputDevice.update c.input c.machine.keypad).result = .ok .proceed
  · exact .inr hu
  · rw [(frame_of_cut hu).1] at hs
    obtain ⟨control, -, rfl⟩ := map_eq_ok hs
    exact .inl rfl

/-- What a stopped machine answers in a frame: the fault if nothing cuts the frame off, and else at
most that it was asked to quit. -/
theorem frame_of_stopped (h : c.machine.fault = some f) :
    (∀ s, c.frame.result = .ok s → s = some .quit ∨ s = some (.fault f)) ∧
      (c.frame.result = .ok (some (.fault f)) ↔
        (InputDevice.update c.input c.machine.keypad).result = .ok .proceed ∧
          (DisplayDevice.draw c.display c.machine.grid).1 = .ok () ∧
          (gate false c.sound).result = .ok ()) := by
  have hcycle : c.polled.machine.cycle = c.polled.machine.fail f := Machine.cycle_of_fault h
  have hr : c.polled.machine.cycle.result = .error f := by
    rw [hcycle]
    rfl
  refine ⟨fun s hs => ?_, ?_⟩
  · rcases proceeds_of_ok hs with hquit | hu
    · exact .inl hquit
    · exact .inr (frame_of_fault hu hr hs)
  · by_cases hu : (InputDevice.update c.input c.machine.keypad).result = .ok .proceed
    · rw [frame_fault_iff hu hr, hcycle]
      exact (and_iff_right hu).symm
    · refine ⟨fun hs => absurd ((proceeds_of_ok hs).resolve_left (by simp)) hu, fun hall => ?_⟩
      exact absurd hall.1 hu

/-! ### The paths -/

/-- PATHS: whatever the devices do, a frame calls them in turn, none after one that failed, and it
fails if one of them does.

* If the input fails or asks to quit, no cycle is run, and nothing is changed but the input and the
  keypad as it left it.
* Otherwise exactly one cycle is run and the display is given the screen that it leaves, be it that
  the cycle failed, or that the display or the tone does.
* A cycle that failed has left its fault with the machine, also where a device kept it out of the
  answer. There it stays through any frames and silencings that follow, and each of these frames
  that reaches the tone without a device failing answers with it; the others fail, or were asked to
  quit. -/
theorem frame_paths (c : Console ι δ σ) :
    let u := InputDevice.update c.input c.machine.keypad
    let ready := { c.machine with keypad := u.keypad }
    let r := c.frame
    InTurn r.calls ∧ Called c r.calls r.console ∧
    ((∃ e, r.result = .error e) ↔ ∃ call ∈ r.calls, call.succeeded = false) ∧
    (u.result ≠ .ok .proceed →
      r.result = u.result.map (fun _ => some .quit) ∧ r.log = u.log ∧
        r.console = { c with machine := ready, input := u.device }) ∧
    (u.result = .ok .proceed →
      r.console.machine = ready.cycle.machine ∧ r.log = u.log ++ ready.cycle.log.map .machine ∧
      (∃ ok rest, r.calls = .update true :: .draw ready.cycle.machine.grid ok :: rest) ∧
      ∀ f, ready.cycle.result = .error f →
        (∀ s, r.result = .ok s → s = some (.fault f)) ∧
        (r.result = .ok (some (.fault f)) ↔
          (DisplayDevice.draw c.display ready.cycle.machine.grid).1 = .ok () ∧
            (gate false c.sound).result = .ok ()) ∧
        ∀ ms : List Move,
          let now := r.console.moved ms
          now.machine.fault = some f ∧
          (∀ s, now.frame.result = .ok s → s = some .quit ∨ s = some (.fault f)) ∧
          (now.frame.result = .ok (some (.fault f)) ↔
            (InputDevice.update now.input now.machine.keypad).result = .ok .proceed ∧
              (DisplayDevice.draw now.display now.machine.grid).1 = .ok () ∧
              (gate false now.sound).result = .ok ())) := by
  intro u ready r
  refine ⟨inTurn_frame c, called_frame c, frame_fails_iff c, frame_of_cut, fun hu => ?_⟩
  obtain ⟨hmachine, hlog, hcalls⟩ := frame_of_uncut hu
  refine ⟨hmachine, hlog, hcalls, fun f hf => ?_⟩
  refine ⟨fun s => frame_of_fault hu hf, frame_fault_iff hu hf, ?_⟩
  intro ms now
  have hfault : r.console.machine.fault = some f := by
    rw [hmachine]
    exact Machine.fault_of_failure hf
  have hnow : now.machine.fault = some f := fault_moved hfault ms
  exact ⟨hnow, frame_of_stopped hnow⟩

/-- A program sounds the tone and then fails, and so does the call that should end the tone, a read
of the input, and a quit comes between. The fault is answered in the frame after these. -/
theorem frame_paths_third_try :
    let machine := ((Machine.powerOn (.ofSeed 0)).load [0x60, 0x05, 0xf0, 0x18, 0xff, 0xff]).machine
    let script : Script := ⟨[.leave, .leave, .leave, .fail "unplugged", .quit, .leave]⟩
    let start : Console Script FrameCounter FickleTone :=
      ⟨machine, script, {}, { fails := (· == 1) }⟩
    let c := frames 2 start
    let f := Fault.unknownInstruction 0xffff 0x204
    let now := c.frame.console.moved [.frame, .frame]
    c.frame.result = .error ⟨"stop failed"⟩ ∧ InTurn c.frame.calls ∧
      c.frame.calls.map DeviceCall.name = ["input", "draw", "stop"] ∧
      c.frame.console.machine.fault = some f ∧
      c.frame.console.frame.result = .error ⟨"unplugged"⟩ ∧
      now.frame.result = .ok (some (.fault f)) := by
  intro machine script start c f now
  obtain ⟨hturn, -, -, -, hgo⟩ := frame_paths c
  obtain ⟨hu, hf, hr, hnames, hcut, hnow⟩ :
      (InputDevice.update c.input c.machine.keypad).result = .ok .proceed ∧
      c.polled.machine.cycle.result = .error f ∧
      c.frame.result = .error ⟨"stop failed"⟩ ∧
      c.frame.calls.map DeviceCall.name = ["input", "draw", "stop"] ∧
      c.frame.console.frame.result = .error ⟨"unplugged"⟩ ∧
      (InputDevice.update now.input now.machine.keypad).result = .ok .proceed ∧
      (DisplayDevice.draw now.display now.machine.grid).1 = .ok () ∧
      (gate false now.sound).result = .ok () := by decide +kernel
  obtain ⟨-, -, -, hfault⟩ := hgo hu
  obtain ⟨-, -, hlater⟩ := hfault f hf
  exact ⟨hr, hturn, hnames, (hlater []).1, hcut, (hlater [.frame, .frame]).2.2.mpr hnow⟩

end Chip8.Console
