import Mathlib.Tactic
import Chip8.Console.Conduct
import Chip8.Proofs.Cycle

/-! How one frame of a console can go.

    The input fails, or asks to quit, or goes on; a cycle is then run and its screen drawn; the draw
    fails, or the tone is turned to where the cycle wants it. Each course has an equation for the
    whole report (`frame_of_error`, `frame_of_quit`, `frame_of_proceed`, `advance_of_blind`,
    `advance_of_drawn`), and what every frame does is read off the list of them (`frame_cases`). -/

namespace Chip8.Console

open Terminal (Control)

/-! ### Devices over many calls -/

namespace SoundDevice

variable {σ : Type} [SoundDevice σ] {d : σ}

/-- What every call to a tone keeps, many calls keep. -/
theorem turned_induction {P : σ → Prop} (step : ∀ d on, P d → P (turn d on).2) (h : P d)
    (turns : List Bool) : P (turned d turns) := by
  induction turns generalizing d with
  | nil => exact h
  | cons on rest ih => exact ih (step d on h)

/-- A gate turns a tone or leaves it alone. -/
theorem gate_cases (on : Bool) (d : σ) :
    isBeeping d = on ∧ gate on d = ⟨.ok (), d, []⟩ ∨
      isBeeping d = !on ∧ ∃ call, call.isUpdate = false ∧
        gate on d = ⟨(turn d on).1, (turn d on).2, [call]⟩ := by
  by_cases h : isBeeping d = on
  · exact .inl ⟨h, gate_of_eq h⟩
  · have hd : isBeeping d = !on := Bool.eq_not_of_ne h
    refine .inr ⟨hd, ?_⟩
    cases on with
    | true => exact ⟨.beep (isOk (beep d).1), rfl, by simp [gate, hd, turn]⟩
    | false => exact ⟨.stop (isOk (stop d).1), rfl, by simp [gate, hd, turn]⟩

/-- What holds of a tone after any turns still does so after a gate. -/
theorem always_gate {Q : σ → Prop} (h : ∀ turns, Q (turned d turns)) (on : Bool) :
    ∀ turns, Q (turned (gate on d).device turns) := by
  intro turns
  rcases gate_cases on d with ⟨-, hg⟩ | ⟨-, call, -, hg⟩
  · rw [hg]
    exact h turns
  · rw [hg]
    exact h (on :: turns)

theorem polls_gate (on : Bool) (d : σ) : polls (gate on d).calls = 0 := by
  rcases gate_cases on d with ⟨-, hg⟩ | ⟨-, call, hcall, hg⟩
  · rw [hg]; rfl
  · rw [hg]
    simp [polls, hcall]

theorem works_gate (h : Works d) (on : Bool) :
    (gate on d).result = .ok () ∧ Works (gate on d).device := by
  refine ⟨?_, always_gate (Q := fun d => ∀ on, (turn d on).1 = .ok ()) h on⟩
  rcases gate_cases on d with ⟨-, hg⟩ | ⟨-, call, -, hg⟩
  · rw [hg]
  · rw [hg]
    exact h [] on

theorem stops_gate (h : Stops d) (on : Bool) : Stops (gate on d).device :=
  always_gate (Q := fun d => (stop d).1 = .ok () ∧ isBeeping (stop d).2 = false) h on

theorem sounds_gate (h : Sounds d) (on : Bool) : Sounds (gate on d).device :=
  always_gate (Q := fun d => (beep d).1 = .ok () → isBeeping (beep d).2 = true) h on

theorem counts_gate {count : σ → Nat} (h : Counts d count) (on : Bool) :
    Counts (gate on d).device count :=
  always_gate (Q := fun d => count (beep d).2 = count d + 1 ∧ count (stop d).2 = count d) h on

/-- A tone that can be stopped is off after it was gated off. -/
theorem isBeeping_gate_false (h : Stops d) :
    (gate false d).result = .ok () ∧ isBeeping (gate false d).device = false := by
  rcases gate_cases false d with ⟨hd, hg⟩ | ⟨-, call, -, hg⟩
  · rw [hg]
    exact ⟨rfl, hd⟩
  · rw [hg]
    exact h []

/-- A tone that can begin is on after it was gated on, unless it failed. -/
theorem isBeeping_gate_true (h : Sounds d) (hr : (gate true d).result = .ok ()) :
    isBeeping (gate true d).device = true := by
  rcases gate_cases true d with ⟨hd, hg⟩ | ⟨-, call, -, hg⟩
  · rw [hg]
    exact hd
  · rw [hg] at hr ⊢
    exact h [] hr

/-- A tone that can begin and end is, after a gate that succeeded, as the gate wants it. -/
theorem isBeeping_gate {on : Bool} (hstops : Stops d) (hsounds : Sounds d)
    (hr : (gate on d).result = .ok ()) : isBeeping (gate on d).device = on := by
  cases on with
  | false => exact (isBeeping_gate_false hstops).2
  | true => exact isBeeping_gate_true hsounds hr

end SoundDevice

namespace DisplayDevice

variable {δ : Type} [DisplayDevice δ] {d : δ}

/-- What every draw keeps, many draws keep. -/
theorem shown_induction {P : δ → Prop} (step : ∀ d frame, P d → P (draw d frame).2) (h : P d)
    (frames : List Grid) : P (shown d frames) := by
  induction frames generalizing d with
  | nil => exact h
  | cons frame rest ih => exact ih (step d frame h)

theorem works_draw (h : Works d) (frame : Grid) :
    (draw d frame).1 = .ok () ∧ Works (draw d frame).2 :=
  ⟨h [] frame, fun frames => h (frame :: frames)⟩

end DisplayDevice

namespace InputDevice

variable {ι : Type} [InputDevice ι] {d : ι} {keypad : Keypad}

theorem polled_update (d : ι) (keypad : Keypad) (n : Nat) :
    polled (update d keypad).device (update d keypad).keypad n = polled d keypad (n + 1) := by
  induction n with
  | zero => rfl
  | succ n ih =>
    rw [polled, ih]
    rfl

theorem works_update (h : Works d keypad) :
    (∃ control, (update d keypad).result = .ok control) ∧
      Works (update d keypad).device (update d keypad).keypad := by
  refine ⟨h 0, fun n => ?_⟩
  rw [poll, polled_update]
  exact h (n + 1)

end InputDevice

variable {ι δ σ : Type} [DisplayDevice δ] [SoundDevice σ] {c : Console ι δ σ} {e : DeviceError}

/-! ### A cycle and what presents it -/

/-- Why a frame stops the run after a cycle. -/
def stopOf : Except Fault Unit → Option Stop
  | .ok _ => none
  | .error f => some (.fault f)

/-- Whether the tone should sound after a cycle. -/
def toneOf (o : Outcome Fault Unit) : Bool :=
  match o.result with
  | .ok _ => o.machine.toneActive
  | .error _ => false

/-- The console after a cycle whose screen was given to the display. -/
def drawn (c : Console ι δ σ) : Console ι δ σ :=
  { c with
    machine := c.machine.cycle.machine
    display := (DisplayDevice.draw c.display c.machine.cycle.machine.grid).2 }

/-- The console after a cycle that was shown, with its tone gated to where the cycle wants it. -/
def presented (c : Console ι δ σ) : Console ι δ σ :=
  { c.drawn with sound := (gate (toneOf c.machine.cycle) c.sound).device }

theorem advance_of_blind
    (h : (DisplayDevice.draw c.display c.machine.cycle.machine.grid).1 = .error e) :
    c.advance = ⟨.error e, c.drawn, [.draw c.machine.cycle.machine.grid false],
      c.machine.cycle.log.map .machine⟩ := by
  simp [advance, present, h, drawn, isOk]

theorem advance_of_drawn
    (h : (DisplayDevice.draw c.display c.machine.cycle.machine.grid).1 = .ok ()) :
    c.advance =
      ⟨(gate (toneOf c.machine.cycle) c.sound).result.map fun _ => stopOf c.machine.cycle.result,
        c.presented,
        .draw c.machine.cycle.machine.grid true :: (gate (toneOf c.machine.cycle) c.sound).calls,
        c.machine.cycle.log.map .machine⟩ := by
  cases hr : c.machine.cycle.result <;>
    simp [advance, present, h, drawn, presented, isOk, gateWith, toneOf, stopOf, hr]

/-- Whatever becomes of the devices, exactly one cycle was run and the input was left alone. -/
theorem advance_cases (c : Console ι δ σ) :
    (∃ e, c.advance = ⟨.error e, c.drawn, [.draw c.machine.cycle.machine.grid false],
      c.machine.cycle.log.map .machine⟩) ∨
    (DisplayDevice.draw c.display c.machine.cycle.machine.grid).1 = .ok () ∧ c.advance =
      ⟨(gate (toneOf c.machine.cycle) c.sound).result.map fun _ => stopOf c.machine.cycle.result,
        c.presented,
        .draw c.machine.cycle.machine.grid true :: (gate (toneOf c.machine.cycle) c.sound).calls,
        c.machine.cycle.log.map .machine⟩ := by
  cases h : (DisplayDevice.draw c.display c.machine.cycle.machine.grid).1 with
  | error e => exact .inl ⟨e, advance_of_blind h⟩
  | ok _ => exact .inr ⟨rfl, advance_of_drawn h⟩

theorem machine_advance (c : Console ι δ σ) :
    c.advance.console.machine = c.machine.cycle.machine := by
  rcases advance_cases c with ⟨e, ha⟩ | ⟨-, ha⟩ <;> rw [ha] <;> rfl

/-- A frame in which no device fails stops where the cycle failed. -/
theorem stop_advance {s : Option Stop} (h : c.advance.result = .ok s) :
    s = stopOf c.machine.cycle.result := by
  rcases advance_cases c with ⟨e, ha⟩ | ⟨-, ha⟩
  · rw [ha] at h
    cases h
  · rw [ha] at h
    cases hg : (gate (toneOf c.machine.cycle) c.sound).result with
    | error e => simp [hg, Except.map] at h
    | ok _ => simpa [hg, Except.map, eq_comm] using h

/-! ### The courses of a frame -/

variable [InputDevice ι]

/-- The console after an update of its input. -/
def polled (c : Console ι δ σ) : Console ι δ σ :=
  let u := InputDevice.update c.input c.machine.keypad
  { c with input := u.device, machine := { c.machine with keypad := u.keypad } }

theorem frame_of_error
    (h : (InputDevice.update c.input c.machine.keypad).result = .error e) :
    c.frame = ⟨.error e, c.polled, [.update false],
      (InputDevice.update c.input c.machine.keypad).log⟩ := by
  simp [frame, h, polled]

theorem frame_of_quit
    (h : (InputDevice.update c.input c.machine.keypad).result = .ok .quit) :
    c.frame = ⟨.ok (some .quit), c.polled, [.update true],
      (InputDevice.update c.input c.machine.keypad).log⟩ := by
  simp [frame, h, polled]

theorem frame_of_proceed
    (h : (InputDevice.update c.input c.machine.keypad).result = .ok .proceed) :
    c.frame = ⟨c.polled.advance.result, c.polled.advance.console,
      .update true :: c.polled.advance.calls,
      (InputDevice.update c.input c.machine.keypad).log ++ c.polled.advance.log⟩ := by
  simp [frame, h, polled]

/-- What a frame can come to: the input fails, or asks to quit, or the display fails, or the cycle
is presented and the tone decides. -/
theorem frame_cases (c : Console ι δ σ) :
    (∃ e log, c.frame = ⟨.error e, c.polled, [.update false], log⟩) ∨
    (∃ log, c.frame = ⟨.ok (some .quit), c.polled, [.update true], log⟩) ∨
    (∃ e log, c.frame = ⟨.error e, c.polled.drawn,
      [.update true, .draw c.polled.machine.cycle.machine.grid false], log⟩) ∨
    ∃ log, c.frame =
      ⟨(gate (toneOf c.polled.machine.cycle) c.sound).result.map fun _ =>
          stopOf c.polled.machine.cycle.result,
        c.polled.presented,
        .update true :: .draw c.polled.machine.cycle.machine.grid true ::
          (gate (toneOf c.polled.machine.cycle) c.sound).calls, log⟩ := by
  cases hu : (InputDevice.update c.input c.machine.keypad).result with
  | error e => exact .inl ⟨e, _, frame_of_error hu⟩
  | ok control =>
    cases control with
    | quit => exact .inr (.inl ⟨_, frame_of_quit hu⟩)
    | proceed =>
      rw [frame_of_proceed hu]
      rcases advance_cases c.polled with ⟨e, ha⟩ | ⟨-, ha⟩
      · rw [ha]
        exact .inr (.inr (.inl ⟨e, _, rfl⟩))
      · rw [ha]
        exact .inr (.inr (.inr ⟨_, rfl⟩))

theorem map_eq_ok {α β : Type} {r : Except DeviceError α} {f : α → β} {b : β}
    (h : r.map f = .ok b) : ∃ a, r = .ok a ∧ f a = b := by
  cases r with
  | error e => cases h
  | ok a => exact ⟨a, rfl, Except.ok.inj h⟩

/-- A frame after which the run goes on: its cycle succeeded and no device failed. -/
theorem frame_of_none (h : c.frame.result = .ok none) :
    c.polled.machine.cycle.result = .ok () ∧
      (gate c.polled.machine.cycle.machine.toneActive c.sound).result = .ok () ∧
      c.frame.console = { c.polled.drawn with
        sound := (gate c.polled.machine.cycle.machine.toneActive c.sound).device } := by
  rcases frame_cases c with ⟨e, log, hf⟩ | ⟨log, hf⟩ | ⟨e, log, hf⟩ | ⟨log, hf⟩ <;> rw [hf] at h ⊢
  · cases h
  · cases h
  · cases h
  · obtain ⟨⟨⟩, hgate, hstop⟩ := map_eq_ok h
    have hcycle : c.polled.machine.cycle.result = .ok () := by
      cases hr : c.polled.machine.cycle.result with
      | ok _ => rfl
      | error f =>
        rw [hr] at hstop
        cases hstop
    have htone : toneOf c.polled.machine.cycle = c.polled.machine.cycle.machine.toneActive := by
      rw [toneOf, hcycle]
    rw [presented, htone]
    rw [htone] at hgate
    exact ⟨hcycle, hgate, rfl⟩

/-- A frame stops the run at a quit, or at a fault, and then it gated the tone off. -/
theorem frame_of_some {stop : Stop} (h : c.frame.result = .ok (some stop)) :
    stop = .quit ∧ c.frame.console = c.polled ∨
      ∃ f, stop = .fault f ∧ c.frame.console = { c.polled.drawn with
        sound := (gate false c.sound).device } := by
  rcases frame_cases c with ⟨e, log, hf⟩ | ⟨log, hf⟩ | ⟨e, log, hf⟩ | ⟨log, hf⟩ <;> rw [hf] at h ⊢
  · cases h
  · cases h
    exact .inl ⟨rfl, rfl⟩
  · cases h
  · obtain ⟨⟨⟩, -, hstop⟩ := map_eq_ok h
    cases hr : c.polled.machine.cycle.result with
    | ok _ =>
      rw [hr] at hstop
      cases hstop
    | error f =>
      rw [hr] at hstop
      cases hstop
      refine .inr ⟨f, rfl, ?_⟩
      show c.polled.presented = _
      rw [presented, toneOf, hr]
      rfl

/-- A frame polls the input once. -/
theorem polls_frame (c : Console ι δ σ) : polls c.frame.calls = 1 := by
  rcases frame_cases c with ⟨e, log, hf⟩ | ⟨log, hf⟩ | ⟨e, log, hf⟩ | ⟨log, hf⟩ <;> rw [hf]
  · rfl
  · rfl
  · rfl
  · have hgate := SoundDevice.polls_gate (toneOf c.polled.machine.cycle) c.sound
    rw [polls] at hgate
    simp [polls, List.countP_cons, DeviceCall.isUpdate, hgate]

/-! ### Many frames -/

theorem frames_succ (n : Nat) (c : Console ι δ σ) :
    frames (n + 1) c = (frames n c).frame.console := by
  induction n generalizing c with
  | zero => rfl
  | succ n ih => exact ih c.frame.console

theorem frames_add (n k : Nat) (c : Console ι δ σ) :
    frames (n + k) c = frames k (frames n c) := by
  induction k with
  | zero => rfl
  | succ k ih => rw [frames_succ, ← ih, ← frames_succ, Nat.add_assoc]

end Chip8.Console
