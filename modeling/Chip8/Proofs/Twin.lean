import Mathlib.Tactic
import Chip8.Proofs.Draws
import Chip8.Proofs.Record

/-! TWINS: consoles that differ in their sources of random bytes, their displays and their tones.

    As long as nothing is drawn the source makes no difference to a cycle, and as long as no display
    and no tone fails neither of them makes a difference to a frame. So twins have the same record,
    frame by frame (`frame_twin`), and then for a whole run (`loop_twin`). That nothing is drawn can
    be told from the reports of one of them. -/

namespace Chip8.Console

variable {ι δ σ δ' σ' : Type}

/-- What two reports have in common: the result, the frames that were shown, and what was reported. -/
structure Agree {α : Type} (r : Report ι δ σ α) (r' : Report ι δ' σ' α) : Prop where
  result : r'.result = r.result
  frames : framesOf r'.calls = framesOf r.calls
  log : r'.log = r.log

theorem Agree.preceded {α β : Type} {r : Report ι δ σ α} {r' : Report ι δ' σ' α}
    {p : Report ι δ σ β} {p' : Report ι δ' σ' β} (h : Agree r r') (hp : Agree p p') :
    Agree (r.preceded p.calls p.log) (r'.preceded p'.calls p'.log) := by
  refine ⟨h.result, ?_, ?_⟩
  · rw [Report.preceded, Report.preceded, framesOf_append, framesOf_append, h.frames, hp.frames]
  · rw [Report.preceded, Report.preceded, h.log, hp.log]

variable [InputDevice ι] [DisplayDevice δ] [SoundDevice σ] [DisplayDevice δ'] [SoundDevice σ']
variable {c : Console ι δ σ} {c' : Console ι δ' σ'} {random : Random}
variable {limit : Option Nat} {fuel done : Nat} {r : Report ι δ σ Stop}

/-! ### What draws nothing -/

theorem drawless_append {log log' : List Event} :
    Drawless (log ++ log') ↔ Drawless log ∧ Drawless log' :=
  List.forall_mem_append

/-- A cycle whose report tells of no draw is the same with another source. -/
theorem cycle_of_drawless {m : Machine} (h : Drawless (m.cycle.log.map .machine))
    (random : Random) : (m.reseeded random).cycle = m.cycle.changed (Machine.reseeded random) := by
  refine Machine.cycle_reseeded random ?_
  rcases Machine.result_cases m.cycle with ⟨hr, -⟩ | ⟨f, -, hno⟩
  · cases hm : m.fault with
    | some f =>
      rw [Machine.cycle_of_fault hm] at hr
      cases hr
    | none =>
      rcases Machine.cycle_cases hm with ⟨f, log, hc⟩ | ⟨w, i, hw, hd, -, hc⟩
      · rw [hc] at hr
        cases hr
      · have hi : i.draws = false := by
          rw [hc] at h
          exact h _ (List.mem_singleton_self _)
        rw [Machine.executedByCycle, Machine.nextWord_of_word hw, hd, Machine.draws_executed, hi,
          Bool.and_false, if_neg Bool.false_ne_true]
  · rw [Machine.executedByCycle_of_failure hno, List.filter_nil]

/-! ### One frame -/

/-- Consoles that differ in their sources of random bytes, their displays and their tones, and of
which no device ever fails. -/
structure Twin (random : Random) (c : Console ι δ σ) (c' : Console ι δ' σ') : Prop where
  works : c.Works
  works' : c'.Works
  machine : c'.machine = c.machine.reseeded random
  input : c'.input = c.input

/-- A frame that draws nothing is the frame of a twin, and leaves twins. -/
theorem frame_twin (h : Twin random c c') (hd : Drawless c.frame.log) :
    Agree c.frame c'.frame ∧ Twin random c.frame.console c'.frame.console := by
  have hupdate : InputDevice.update c'.input c'.machine.keypad =
      InputDevice.update c.input c.machine.keypad := by
    rw [h.machine, h.input]
    rfl
  have hpolled : c'.polled.machine = c.polled.machine.reseeded random ∧
      c'.polled.input = c.polled.input := by
    rw [polled, polled, hupdate, h.machine]
    exact ⟨rfl, rfl⟩
  have hworks := (works_frame h.works).2
  have hworks' := (works_frame h.works').2
  rcases update_cases h.works with hu | hu
  · have hu' := (congrArg InputReport.result hupdate).trans hu
    rw [frame_of_quit hu] at hworks ⊢
    rw [frame_of_quit hu', hupdate] at hworks' ⊢
    exact ⟨⟨rfl, rfl, rfl⟩, hworks, hworks', hpolled.1, hpolled.2⟩
  · have hu' := (congrArg InputReport.result hupdate).trans hu
    have hframes := framesOf_frame h.works hu
    have hframes' := framesOf_frame h.works' hu'
    rw [frame_of_cycle h.works hu] at hd hworks hframes ⊢
    rw [frame_of_cycle h.works' hu', hupdate] at hworks' hframes' ⊢
    have hcycle : c'.polled.machine.cycle =
        c.polled.machine.cycle.changed (Machine.reseeded random) := by
      rw [hpolled.1]
      exact cycle_of_drawless (drawless_append.mp hd).2 random
    have hmachine : c'.polled.presented.machine = c.polled.presented.machine.reseeded random :=
      congrArg Outcome.machine hcycle
    refine ⟨⟨?_, ?_, ?_⟩, hworks, hworks', hmachine, hpolled.2⟩
    · rw [hcycle]
      rfl
    · rw [hframes, hframes', hmachine]
      rfl
    · rw [hcycle]
      rfl

theorem pass_twin (h : Twin random c c') (hd : Drawless (c.pass limit done).log) :
    Agree (c.pass limit done) (c'.pass limit done) ∧
      Twin random (c.pass limit done).console (c'.pass limit done).console := by
  by_cases hl : limit = some done
  · rw [pass_of_limit hl, pass_of_limit hl]
    exact ⟨⟨rfl, rfl, rfl⟩, h⟩
  · rw [pass_of_ne hl] at hd ⊢
    rw [pass_of_ne hl]
    exact frame_twin h hd

theorem finish_twin (h : Twin random c c') (done : Nat) (stop : Stop) :
    Agree (c.finish done stop) (c'.finish done stop) := by
  rw [finish_of_ok (SoundDevice.works_gate h.works.sound false).1,
    finish_of_ok (SoundDevice.works_gate h.works'.sound false).1]
  exact ⟨rfl, by rw [framesOf_gate, framesOf_gate], rfl⟩

/-! ### A run -/

/-- A run that draws nothing is the run of its twin. -/
theorem loop_twin (h : Twin random c c') (hr : loop limit fuel done c = some r)
    (hd : Drawless r.log) : ∃ r', loop limit fuel done c' = some r' ∧ Agree r r' := by
  induction fuel generalizing done c c' r with
  | zero => cases hr
  | succ fuel ih =>
    obtain ⟨s, hs⟩ := (works_pass h.works limit done).1
    rw [loop] at hr ⊢
    cases s with
    | some stop =>
      simp only [hs, Option.some.injEq] at hr
      subst hr
      obtain ⟨hpass, htwin⟩ := pass_twin h (drawless_append.mp hd).1
      simp only [hpass.result.trans hs]
      exact ⟨_, rfl, (finish_twin htwin done stop).preceded hpass⟩
    | none =>
      simp only [hs, Option.map_eq_some_iff] at hr
      obtain ⟨rest, hrest, rfl⟩ := hr
      obtain ⟨hdpass, hdrest⟩ := drawless_append.mp hd
      obtain ⟨hpass, htwin⟩ := pass_twin h hdpass
      obtain ⟨rest', hrest', hagree⟩ := ih htwin hrest hdrest
      simp only [hpass.result.trans hs, hrest']
      exact ⟨_, rfl, hagree.preceded hpass⟩

end Chip8.Console
