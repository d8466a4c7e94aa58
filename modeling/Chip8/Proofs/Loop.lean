import Mathlib.Tactic
import Chip8.Console.Loop
import Chip8.Proofs.Frame

/-! What a run of a console comes to: frames that go on, and one last pass.

    `loop_cases` takes a run that ended apart into these, and `run_of_stop` says what is left of it
    if it ended in a stop. Under a limit every run ends (`run_returns`), and with devices that work
    it ends in a stop (`stop_of_works`). -/

namespace Chip8

theorem Machine.keypad_cycle (m : Machine) : m.cycle.machine.keypad = m.keypad := by
  rcases machine_cycle_cases m with ⟨f, hc⟩ | ⟨-, i, -, -, hc⟩ <;> rw [hc]
  exact (kept_effect m.fetched i).2.1

namespace Console

theorem polls_append (calls calls' : List DeviceCall) :
    polls (calls ++ calls') = polls calls + polls calls' :=
  List.countP_append

theorem Report.preceded_preceded {ι δ σ α : Type} (r : Report ι δ σ α)
    (calls calls' : List DeviceCall) (log log' : List Event) :
    (r.preceded calls log).preceded calls' log' = r.preceded (calls' ++ calls) (log' ++ log) := by
  simp [preceded]

/-! ### The end of a run -/

section Finish

variable {ι δ σ : Type} [SoundDevice σ] {c : Console ι δ σ} {done : Nat} {stop : Stop}

/-- The console with its tone silenced. -/
def hushed (c : Console ι δ σ) : Console ι δ σ := { c with sound := (gate false c.sound).device }

theorem finish_of_ok (h : (gate false c.sound).result = .ok ()) :
    c.finish done stop =
      ⟨.ok stop, c.hushed, (gate false c.sound).calls, [.stopped done stop]⟩ := by
  simp [finish, h, hushed]

theorem finish_of_error {e : DeviceError} (h : (gate false c.sound).result = .error e) :
    c.finish done stop = ⟨.error e, c.hushed, (gate false c.sound).calls, []⟩ := by
  simp [finish, h, hushed]

/-- A run that succeeds ends with the stop of its last pass, and says so. -/
theorem finish_of_result {s : Stop} (h : (c.finish done stop).result = .ok s) :
    s = stop ∧ c.finish done stop =
      ⟨.ok stop, c.hushed, (gate false c.sound).calls, [.stopped done stop]⟩ := by
  cases hg : (gate false c.sound).result with
  | error e =>
    rw [finish_of_error hg] at h
    cases h
  | ok _ =>
    rw [finish_of_ok hg] at h ⊢
    cases h
    exact ⟨rfl, rfl⟩

theorem polls_finish (c : Console ι δ σ) (done : Nat) (stop : Stop) :
    polls (c.finish done stop).calls = 0 := by
  cases hg : (gate false c.sound).result with
  | error e => rw [finish_of_error hg]; exact SoundDevice.polls_gate false c.sound
  | ok _ => rw [finish_of_ok hg]; exact SoundDevice.polls_gate false c.sound

end Finish

section Passes

variable {ι δ σ : Type} [InputDevice ι] [DisplayDevice δ] [SoundDevice σ]
variable {c : Console ι δ σ} {limit : Option Nat} {done fuel k n : Nat} {r : Report ι δ σ Stop}

theorem pass_of_limit (h : limit = some done) :
    c.pass limit done = ⟨.ok (some .cycleLimit), c, [], []⟩ :=
  if_pos h

theorem pass_of_ne (h : limit ≠ some done) : c.pass limit done = c.frame := if_neg h

/-- A pass after which the loop goes on is a frame. -/
theorem pass_of_none (h : (c.pass limit done).result = .ok none) :
    limit ≠ some done ∧ c.pass limit done = c.frame := by
  have hne : limit ≠ some done := by
    intro hl
    rw [pass_of_limit hl] at h
    cases h
  exact ⟨hne, pass_of_ne hne⟩

theorem frame_of_pass (h : (c.pass limit done).result = .ok none) : c.frame.result = .ok none := by
  rw [← (pass_of_none h).2]
  exact h

/-- A pass that says that the limit was reached did nothing. -/
theorem pass_of_cycleLimit (h : (c.pass limit done).result = .ok (some .cycleLimit)) :
    limit = some done ∧ c.pass limit done = ⟨.ok (some .cycleLimit), c, [], []⟩ := by
  by_cases hl : limit = some done
  · exact ⟨hl, pass_of_limit hl⟩
  · rw [pass_of_ne hl] at h
    rcases frame_of_some h with ⟨hq, -⟩ | ⟨f, hf, -⟩
    · cases hq
    · cases hf

/-- What the last pass of a run leaves, after `done` frames. -/
def concluded (r : Report ι δ σ (Option Stop)) (done : Nat) : Report ι δ σ Stop → Prop := fun last =>
  (∃ e, r.result = .error e ∧ last = ⟨.error e, r.console, r.calls, r.log⟩) ∨
    ∃ stop, r.result = .ok (some stop) ∧
      last = (r.console.finish done stop).preceded r.calls r.log

/-- A run that ended is made of frames after which it went on, and of one last pass. -/
theorem loop_cases (h : loop limit fuel done c = some r) :
    ∃ k calls log last, (∀ j < k, ((frames j c).pass limit (done + j)).result = .ok none) ∧
      polls calls = k ∧ r = last.preceded calls log ∧
      concluded ((frames k c).pass limit (done + k)) (done + k) last := by
  induction fuel generalizing done c r with
  | zero => cases h
  | succ fuel ih =>
    rw [loop] at h
    cases hp : (c.pass limit done).result with
    | error e =>
      simp only [hp, Option.some.injEq] at h
      exact ⟨0, [], [], r, by simp, rfl, by simp [Report.preceded], .inl ⟨e, hp, h.symm⟩⟩
    | ok s =>
      cases s with
      | some stop =>
        simp only [hp, Option.some.injEq] at h
        exact ⟨0, [], [], r, by simp, rfl, by simp [Report.preceded], .inr ⟨stop, hp, h.symm⟩⟩
      | none =>
        simp only [hp, Option.map_eq_some_iff] at h
        obtain ⟨rest, hrest, rfl⟩ := h
        have hc : c.pass limit done = c.frame := (pass_of_none hp).2
        obtain ⟨k, calls, log, last, hgo, hpolls, rfl, hlast⟩ := ih hrest
        rw [hc] at hgo hlast ⊢
        refine ⟨k + 1, c.frame.calls ++ calls, c.frame.log ++ log, last, ?_, ?_, ?_, ?_⟩
        · rintro (_ | j) hj
          · exact hp
          · have := hgo j (by omega)
            rwa [Nat.add_assoc, Nat.add_comm 1 j] at this
        · rw [polls_append, polls_frame, hpolls, Nat.add_comm]
        · rw [Report.preceded_preceded]
        · rwa [Nat.add_assoc, Nat.add_comm 1 k] at hlast

theorem run_eq (config : Config) (fuel : Nat) (c : Console ι δ σ) :
    run config fuel c =
      (loop config.maxCycles fuel 0 c).map fun r => r.preceded [] [.running config.hz] :=
  rfl

/-- The passes of a console go on up to one that stops. -/
structure Ends (c : Console ι δ σ) (limit : Option Nat) (k : Nat) (stop : Stop) : Prop where
  goes : ∀ j < k, ((frames j c).pass limit j).result = .ok none
  stops : ((frames k c).pass limit k).result = .ok (some stop)

/-- There is one first number at which something no longer holds. -/
theorem first_unique {P : Nat → Prop} {k k' : Nat} (hk : ¬ P k) (hlt : ∀ j < k, P j)
    (hk' : ¬ P k') (hlt' : ∀ j < k', P j) : k = k' := by
  rcases Nat.lt_trichotomy k k' with h | h | h
  · exact absurd (hlt' k h) hk
  · exact h
  · exact absurd (hlt k' h) hk'

theorem ends_unique {stop stop' : Stop} {k' : Nat} (h : c.Ends limit k stop)
    (h' : c.Ends limit k' stop') : k = k' ∧ stop = stop' := by
  obtain rfl : k = k' :=
    first_unique (P := fun j => ((frames j c).pass limit j).result = .ok none)
      (by simp [h.stops]) h.goes (by simp [h'.stops]) h'.goes
  have hs := h.stops.symm.trans h'.stops
  exact ⟨rfl, by simpa using hs⟩

/-- A run that ends in a stop: its passes up to that one, and then the tone is silenced. -/
theorem run_of_stop {config : Config} {stop : Stop} (h : run config fuel c = some r)
    (hr : r.result = .ok stop) :
    ∃ k, c.Ends config.maxCycles k stop ∧
      r.console = ((frames k c).pass config.maxCycles k).console.hushed ∧
      polls r.calls = k + polls ((frames k c).pass config.maxCycles k).calls ∧
      r.log.getLast? = some (.stopped k stop) := by
  rw [run_eq, Option.map_eq_some_iff] at h
  obtain ⟨r, hloop, rfl⟩ := h
  obtain ⟨k, calls, log, last, hgo, hpolls, rfl, hlast⟩ := loop_cases hloop
  simp only [Nat.zero_add] at hgo hlast
  rcases hlast with ⟨e, -, rfl⟩ | ⟨stop', hstop, rfl⟩
  · cases hr
  · obtain ⟨rfl, hfinish⟩ := finish_of_result hr
    refine ⟨k, ⟨hgo, hstop⟩, ?_, ?_, ?_⟩
    · show (finish _ k _).console = _
      rw [hfinish]
    · show polls ([] ++ (calls ++ (_ ++ (finish _ k _).calls))) = _
      rw [List.nil_append, polls_append, polls_append, polls_finish, hpolls]
      rfl
    · show ([_] ++ (log ++ (_ ++ (finish _ k _).log))).getLast? = _
      rw [hfinish, ← List.append_assoc, ← List.append_assoc]
      exact List.getLast?_concat

/-! ### A run under a limit -/

/-- A run that its limit stopped made all its frames, and then silenced the tone. -/
theorem run_of_limit {config : Config} (hn : config.maxCycles = some n)
    (h : run config fuel c = some r) (hr : r.result = .ok .cycleLimit) :
    (∀ j < n, (frames j c).frame.result = .ok none) ∧ r.console = (frames n c).hushed ∧
      polls r.calls = n := by
  obtain ⟨k, hends, hconsole, hpolls, -⟩ := run_of_stop h hr
  obtain ⟨hk, hpass⟩ := pass_of_cycleLimit hends.stops
  obtain rfl : n = k := Option.some.inj (hn.symm.trans hk)
  rw [hpass] at hconsole hpolls
  exact ⟨fun j hj => frame_of_pass (hends.goes j hj), hconsole, hpolls⟩

/-- Under a limit a run ends, after no more frames than are left to it. -/
theorem loop_returns (hd : done ≤ n) (hf : n < done + fuel) :
    ∃ r, loop (some n) fuel done c = some r ∧ done + polls r.calls ≤ n := by
  induction fuel generalizing done c with
  | zero => omega
  | succ fuel ih =>
    rw [loop]
    by_cases hl : done = n
    · subst hl
      rw [pass_of_limit rfl]
      refine ⟨_, rfl, ?_⟩
      simp [Report.preceded, polls_finish]
    · have hn : some n ≠ some done := fun h => hl (Option.some.inj h).symm
      rw [pass_of_ne hn]
      have hone := polls_frame c
      cases hr : c.frame.result with
      | error e => exact ⟨_, rfl, by simp only [hone]; omega⟩
      | ok s =>
        cases s with
        | some stop =>
          refine ⟨_, rfl, ?_⟩
          simp only [Report.preceded, polls_append, polls_finish, hone]
          omega
        | none =>
          obtain ⟨rest, hrest, hpolls⟩ := @ih c.frame.console (done + 1) (by omega) (by omega)
          refine ⟨rest.preceded c.frame.calls c.frame.log, by simp [hrest], ?_⟩
          simp only [Report.preceded, polls_append, hone]
          omega

/-- Under a limit a run ends, after no more frames than the limit. -/
theorem run_returns {config : Config} (hn : config.maxCycles = some n) (hf : n < fuel)
    (c : Console ι δ σ) : ∃ r, run config fuel c = some r ∧ polls r.calls ≤ n := by
  obtain ⟨r, hloop, hle⟩ := loop_returns (c := c) (Nat.zero_le n) (show n < 0 + fuel by omega)
  rw [run_eq, hn, hloop]
  exact ⟨_, rfl, by simpa [Report.preceded] using hle⟩

end Passes

/-! ### Devices that work -/

section Works

variable {ι δ σ : Type} [InputDevice ι] [DisplayDevice δ] [SoundDevice σ]
variable {c : Console ι δ σ} {fuel : Nat} {r : Report ι δ σ Stop}

/-- No call to a device of the console ever fails. -/
structure Works (c : Console ι δ σ) : Prop where
  input : InputDevice.Works c.input c.machine.keypad
  display : DisplayDevice.Works c.display
  sound : SoundDevice.Works c.sound

theorem works_frame (h : c.Works) : (∃ s, c.frame.result = .ok s) ∧ c.frame.console.Works := by
  obtain ⟨⟨control, hu⟩, hinput⟩ := InputDevice.works_update h.input
  cases control with
  | quit =>
    rw [frame_of_quit hu]
    exact ⟨⟨_, rfl⟩, hinput, h.display, h.sound⟩
  | proceed =>
    obtain ⟨hdraw, hdisplay⟩ := DisplayDevice.works_draw h.display c.polled.machine.cycle.machine.grid
    obtain ⟨hgate, hsound⟩ := SoundDevice.works_gate h.sound (toneOf c.polled.machine.cycle)
    rw [frame_of_proceed hu, advance_of_drawn hdraw]
    refine ⟨⟨stopOf c.polled.machine.cycle.result, ?_⟩, ?_, hdisplay, hsound⟩
    · show (gate (toneOf c.polled.machine.cycle) c.sound).result.map _ = _
      rw [hgate]
      rfl
    · show InputDevice.Works c.polled.input c.polled.machine.cycle.machine.keypad
      rw [Machine.keypad_cycle]
      exact hinput

theorem works_frames (h : c.Works) (n : Nat) : (frames n c).Works := by
  induction n generalizing c with
  | zero => exact h
  | succ n ih => exact ih (works_frame h).2

theorem works_pass (h : c.Works) (limit : Option Nat) (done : Nat) :
    (∃ s, (c.pass limit done).result = .ok s) ∧ (c.pass limit done).console.Works := by
  by_cases hl : limit = some done
  · rw [pass_of_limit hl]
    exact ⟨⟨_, rfl⟩, h⟩
  · rw [pass_of_ne hl]
    exact works_frame h

/-- With devices that work a run ends in a stop. -/
theorem stop_of_works {config : Config} (hw : c.Works) (h : run config fuel c = some r) :
    ∃ stop, r.result = .ok stop := by
  obtain ⟨r, hloop, rfl⟩ := Option.map_eq_some_iff.mp h
  obtain ⟨k, calls, log, last, -, -, rfl, hlast⟩ := loop_cases hloop
  obtain ⟨⟨s, hs⟩, hsound⟩ := works_pass (works_frames hw k) config.maxCycles (0 + k)
  rcases hlast with ⟨e, he, -⟩ | ⟨stop, -, rfl⟩
  · rw [hs] at he
    cases he
  · refine ⟨stop, ?_⟩
    have hg := (SoundDevice.works_gate hsound.sound false).1
    show (finish _ _ _).result = _
    rw [finish_of_ok hg]

end Works

end Console

end Chip8
