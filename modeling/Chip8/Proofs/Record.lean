import Mathlib.Tactic
import Chip8.Console.Calls
import Chip8.Proofs.Loop

/-! What a run whose devices WORK leaves in its record.

    A frame then asks to quit, or runs a cycle and shows its screen (`frame_of_cycle`). So the display
    of a console was given the frames in the record and no others, and the last of them is the screen
    that the machine is left with (`recorded_loop`). Nothing is shown only if the run was over before
    its first cycle (`framesOf_loop_eq_nil`). -/

namespace Chip8.Console

variable {ι δ σ : Type} [InputDevice ι] [DisplayDevice δ] [SoundDevice σ]
variable {c : Console ι δ σ} {limit : Option Nat} {fuel done : Nat} {r : Report ι δ σ Stop}

theorem framesOf_append (calls calls' : List DeviceCall) :
    framesOf (calls ++ calls') = framesOf calls ++ framesOf calls' :=
  List.filterMap_append

theorem framesOf_gate (on : Bool) (d : σ) : framesOf (gate on d).calls = [] := by
  unfold gate
  split <;> rfl

/-! ### Frames of devices that work -/

theorem frame_of_cycle (hw : c.Works)
    (hu : (InputDevice.update c.input c.machine.keypad).result = .ok .proceed) :
    c.frame = ⟨.ok (stopOf c.polled.machine.cycle.result), c.polled.presented,
      .update true :: .draw c.polled.machine.cycle.machine.grid true ::
        (gate (toneOf c.polled.machine.cycle) c.sound).calls,
      (InputDevice.update c.input c.machine.keypad).log ++
        c.polled.machine.cycle.log.map .machine⟩ := by
  have hdraw := (DisplayDevice.works_draw hw.display c.polled.machine.cycle.machine.grid).1
  have hgate : (gate (toneOf c.polled.machine.cycle) c.polled.sound).result = .ok () :=
    (SoundDevice.works_gate hw.sound _).1
  rw [frame_of_proceed hu, advance_of_drawn hdraw, hgate]
  rfl

/-- An input that works asks to quit or goes on. -/
theorem update_cases (hw : c.Works) :
    (InputDevice.update c.input c.machine.keypad).result = .ok .quit ∨
      (InputDevice.update c.input c.machine.keypad).result = .ok .proceed := by
  obtain ⟨control, hu⟩ := (InputDevice.works_update hw.input).1
  cases control with
  | quit => exact .inl hu
  | proceed => exact .inr hu

/-- A frame that runs a cycle shows the screen that the cycle leaves. -/
theorem framesOf_frame (hw : c.Works)
    (hu : (InputDevice.update c.input c.machine.keypad).result = .ok .proceed) :
    framesOf c.frame.calls = [c.frame.console.machine.grid] := by
  rw [frame_of_cycle hw hu]
  show _ :: framesOf (gate _ c.sound).calls = _
  rw [framesOf_gate]
  rfl

/-! ### Runs of devices that work -/

/-- What holds of a last pass, and is handed back from frame to frame, holds of a run. -/
theorem works_induction {P : Nat → Console ι δ σ → Report ι δ σ Stop → Prop}
    (last : ∀ done c stop, c.Works → (c.pass limit done).result = .ok (some stop) →
      P done c ⟨.ok stop, (c.pass limit done).console.hushed,
        (c.pass limit done).calls ++ (gate false (c.pass limit done).console.sound).calls,
        (c.pass limit done).log ++ [.stopped done stop]⟩)
    (next : ∀ done c r, c.Works → limit ≠ some done → c.frame.result = .ok none →
      P (done + 1) c.frame.console r → P done c (r.preceded c.frame.calls c.frame.log))
    (hw : c.Works) (h : loop limit fuel done c = some r) : P done c r := by
  induction fuel generalizing done c r with
  | zero => cases h
  | succ fuel ih =>
    obtain ⟨⟨s, hs⟩, hpass⟩ := works_pass hw limit done
    rw [loop] at h
    cases s with
    | some stop =>
      simp only [hs, Option.some.injEq] at h
      have hgate := (SoundDevice.works_gate hpass.sound false).1
      rw [finish_of_ok hgate] at h
      subst h
      exact last done c stop hw hs
    | none =>
      simp only [hs, Option.map_eq_some_iff] at h
      obtain ⟨rest, hrest, rfl⟩ := h
      obtain ⟨hne, hframe⟩ := pass_of_none hs
      rw [hframe] at hs hrest ⊢
      exact next done c rest hw hne hs (ih (works_frame hw).2 hrest)

/-- The display was given the frames in the record, and the last of them is on the machine. -/
structure Recorded {α : Type} (c : Console ι δ σ) (r : Report ι δ σ α) : Prop where
  display : r.console.display = DisplayDevice.shown c.display (framesOf r.calls)
  grid : r.console.machine.grid = (lastShown? r.calls).getD c.machine.grid

theorem recorded_frame (hw : c.Works) : Recorded c c.frame := by
  rcases update_cases hw with hu | hu
  · rw [frame_of_quit hu]
    exact ⟨rfl, rfl⟩
  · have hframes := framesOf_frame hw hu
    constructor
    · rw [hframes, frame_of_cycle hw hu]
      rfl
    · rw [lastShown?, hframes]
      rfl

theorem recorded_pass (hw : c.Works) (limit : Option Nat) (done : Nat) :
    Recorded c (c.pass limit done) := by
  by_cases hl : limit = some done
  · rw [pass_of_limit hl]
    exact ⟨rfl, rfl⟩
  · rw [pass_of_ne hl]
    exact recorded_frame hw

theorem recorded_loop (hw : c.Works) (h : loop limit fuel done c = some r) : Recorded c r := by
  refine works_induction (P := fun _ c r => Recorded c r) ?_ ?_ hw h
  · intro done c stop hw _
    obtain ⟨hdisplay, hgrid⟩ := recorded_pass hw limit done
    constructor
    · simp only [framesOf_append, framesOf_gate, List.append_nil]
      exact hdisplay
    · simp only [lastShown?, framesOf_append, framesOf_gate, List.append_nil]
      exact hgrid
  · intro done c r hw _ _ hrest
    obtain ⟨hdisplay, hgrid⟩ := recorded_frame hw
    constructor
    · simp only [Report.preceded, framesOf_append, DisplayDevice.shown, List.foldl_append]
      rw [hrest.display, hdisplay]
      rfl
    · rw [lastShown?] at hgrid
      simp only [Report.preceded, lastShown?, framesOf_append, List.getLast?_append]
      rw [hrest.grid, hgrid, lastShown?, Option.getD_or]

/-- Nothing is shown by a run that has reached its limit or is asked to quit at once. -/
theorem framesOf_loop_eq_nil (hw : c.Works) (h : loop limit fuel done c = some r) :
    framesOf r.calls = [] ↔
      limit = some done ∨ (InputDevice.update c.input c.machine.keypad).result = .ok .quit := by
  refine works_induction (P := fun done c r => framesOf r.calls = [] ↔ limit = some done ∨
    (InputDevice.update c.input c.machine.keypad).result = .ok .quit) ?_ ?_ hw h
  · intro done c stop hw _
    simp only [framesOf_append, framesOf_gate, List.append_nil]
    by_cases hl : limit = some done
    · rw [pass_of_limit hl]
      simp [framesOf, hl]
    · rw [pass_of_ne hl]
      rcases update_cases hw with hu | hu
      · rw [frame_of_quit hu]
        simp [framesOf, DeviceCall.frame?, hu]
      · rw [framesOf_frame hw hu]
        simp [hl, hu]
  · intro done c r hw hne hgo _
    rcases update_cases hw with hu | hu
    · rw [frame_of_quit hu] at hgo
      cases hgo
    · simp [Report.preceded, framesOf_append, framesOf_frame hw hu, hne, hu]

end Chip8.Console
