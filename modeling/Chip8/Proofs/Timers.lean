import Mathlib.Tactic
import Chip8.Machine.Timers
import Chip8.Proofs.Footprint
import Chip8.Proofs.Loading

/-! How the TIMERS of a machine run.

    A cycle that succeeds takes one from a timer, after it has set it if its word does
    (`timer_cycle`); nothing that happens between cycles touches one. So over cycles that do not set
    a timer it falls by their number and stops at zero (`timer_falls`), and what it stands at is
    decided by the last cycle that did set it and by how long ago that was. -/

namespace Chip8.Machine

open Pattern (fits table)

variable {m : Machine} {between : Nat → List Request} {t : Timer} {j n : Nat}

/-! ### One cycle -/

theorem timer_cycle (h : m.cycle.result = .ok ()) (t : Timer) :
    (m.cycle.machine.timer t).toNat =
      (if m.sets t then m.reg m.nextWord.x else m.timer t).toNat - 1 := by
  obtain ⟨hp, i, hd, ho, hc⟩ := cycle_of_success h
  have hfoot := footprint_effect hp hd ho
  rw [hc]
  cases t
  case delay => exact hfoot.delayTimer
  case sound => exact hfoot.soundTimer

/-- A cycle that fails does not touch a timer, be it that it found the machine stopped. -/
theorem timer_of_failure {f : Fault} (h : m.cycle.result = .error f) (t : Timer) :
    m.cycle.machine.timer t = m.timer t := by
  rw [cycle_of_failure h]
  cases t <;> rfl

/-- A cycle that reads the delay timer reads it as it was before. -/
theorem reg_of_read (h : m.cycle.result = .ok ()) (hw : fits "FX07" m.nextWord = true) :
    m.cycle.machine.reg m.nextWord.x = m.timer .delay := by
  obtain ⟨-, i, hd, -, hc⟩ := cycle_of_success h
  obtain rfl : i = .getDelayTimer m.nextWord.x := instruction_of_fits hd
    (by simp [table] : ("FX07", fun w : Word => Instruction.getDelayTimer w.x) ∈ table)
    (by decide) hw
  rw [hc]
  exact (reg_setReg m.fetched _ _ _).trans (if_pos rfl)

/-! ### Many cycles -/

/-- What comes between two cycles leaves the timers alone. -/
theorem timer_course_succ (hb : ∀ k, ∀ r ∈ between k, r.supplies = true) (k : Nat) (t : Timer) :
    (m.course between (k + 1)).timer t = (m.course between k).cycle.machine.timer t := by
  rw [course, after_of_supplies (hb k)]
  cases t <;> rfl

/-- Over cycles that do not set it a timer falls by one each, down to zero. -/
theorem timer_falls (hb : ∀ k, ∀ r ∈ between k, r.supplies = true) (hj : j ≤ n)
    (hn : ∀ k < n, (m.course between k).cycle.result = .ok ())
    (hnone : ∀ k, j ≤ k → k < n → (m.course between k).sets t = false) :
    ((m.course between n).timer t).toNat = ((m.course between j).timer t).toNat - (n - j) := by
  induction n, hj using Nat.le_induction with
  | base => simp
  | succ n hj ih =>
    have hbefore := ih (fun k hk => hn k (Nat.lt_succ_of_lt hk))
      fun k hjk hk => hnone k hjk (Nat.lt_succ_of_lt hk)
    rw [timer_course_succ hb, timer_cycle (hn n (Nat.lt_succ_self n)),
      hnone n hj (Nat.lt_succ_self n), if_neg (by simp), hbefore]
    omega

/-- RUN: over any cycles that succeed, whatever is loaded and whichever keys are pressed between
them, a timer ends at the value that it was last set to less the number of cycles from that one on,
or if it was not set at the value that it began at less the number of all cycles, but not below
zero; and the two timers do so each by itself. A cycle that fails or finds the machine stopped takes
nothing from them, and one that reads the delay timer reads it before it falls. -/
theorem timers_run (m : Machine) (between : Nat → List Request) (n : Nat)
    (hb : ∀ k, ∀ r ∈ between k, r.supplies = true)
    (hn : ∀ k < n, (m.course between k).cycle.result = .ok ()) :
    let state (k : Nat) := m.course between k
    (∀ t,
      (∀ j < n, (state j).sets t = true → (∀ k, j < k → k < n → (state k).sets t = false) →
        ((state n).timer t).toNat =
          ((state j).reg (state j).nextWord.x).toNat - (n - j)) ∧
      ((∀ k < n, (state k).sets t = false) →
        ((state n).timer t).toNat = (m.timer t).toNat - n)) ∧
    (∀ (m : Machine) f t, m.cycle.result = .error f → m.cycle.machine.timer t = m.timer t) ∧
    ∀ m : Machine, m.cycle.result = .ok () → fits "FX07" m.nextWord = true →
      m.cycle.machine.reg m.nextWord.x = m.timer .delay := by
  intro state
  refine ⟨fun t => ⟨fun j hj hset hlast => ?_, fun hnone => ?_⟩,
    fun m f t h => timer_of_failure h t, fun m => reg_of_read⟩
  · have hfirst : ((state (j + 1)).timer t).toNat =
        ((state j).reg (state j).nextWord.x).toNat - 1 := by
      show ((m.course between (j + 1)).timer t).toNat = _
      rw [timer_course_succ hb, timer_cycle (hn j hj), if_pos hset]
    have hrest : ((state n).timer t).toNat = ((state (j + 1)).timer t).toNat - (n - (j + 1)) :=
      timer_falls hb hj hn fun k hk => hlast k hk
    rw [hrest, hfirst]
    omega
  · exact timer_falls hb (Nat.zero_le n) hn fun k _ hk => hnone k hk

/-- Both timers are set to 3, one a cycle after the other, and the delay timer is then read before a
cycle that fails. -/
theorem timers_run_one_later :
    let program : List UInt8 := [0x60, 0x03, 0xf0, 0x15, 0xf0, 0x18, 0xf1, 0x07, 0xff, 0xff]
    let between : Nat → List Request := fun k => [.keys (.press (.ofNat k))]
    let m := (powerOn (.ofSeed 0)).after [.load program]
    let state (k : Nat) := m.course between k
    (∀ k, ∀ r ∈ between k, r.supplies = true) ∧ (∀ k < 4, (state k).cycle.result = .ok ()) ∧
      ((state 1).timer .delay).toNat = 0 ∧ ((state 4).timer .delay).toNat = 3 - (4 - 1) ∧
      ((state 4).timer .sound).toNat = 3 - (4 - 2) ∧
      (state 3).cycle.machine.reg 1 = (state 3).timer .delay ∧
      (state 4).cycle.machine.timer .sound = (state 4).timer .sound := by
  intro program between m state
  have hb : ∀ k, ∀ r ∈ between k, r.supplies = true := fun k r hr => by
    rw [List.mem_singleton.mp hr]
    rfl
  -- The five states are computed in one go: each by itself would load the program again.
  obtain ⟨hn, hnone, ⟨hdelay, hdelays⟩, ⟨hsound, hsounds⟩, ⟨hd, hs⟩, ⟨hread, hx⟩, hfault⟩ :
      (∀ k < 4, (state k).cycle.result = .ok ()) ∧
      (∀ k < 1, (state k).sets .delay = false) ∧
      ((state 1).sets .delay = true ∧ ∀ k < 4, 1 < k → (state k).sets .delay = false) ∧
      ((state 2).sets .sound = true ∧ ∀ k < 4, 2 < k → (state k).sets .sound = false) ∧
      (((state 1).reg (state 1).nextWord.x).toNat = 3 ∧
        ((state 2).reg (state 2).nextWord.x).toNat = 3) ∧
      (fits "FX07" (state 3).nextWord = true ∧ (state 3).nextWord.x = 1) ∧
      (state 4).cycle.result = .error (.unknownInstruction 0xffff 0x208) := by decide +kernel
  obtain ⟨hrun, hfailed, hreads⟩ := timers_run m between 4 hb hn
  have hidle := (timers_run m between 1 hb fun k hk => hn k (by omega)).1 .delay
  refine ⟨hb, hn, hidle.2 hnone, ?_, ?_, ?_, hfailed _ _ .sound hfault⟩
  · rw [(hrun .delay).1 1 (by decide) hdelay fun k hk h4 => hdelays k h4 hk, hd]
  · rw [(hrun .sound).1 2 (by decide) hsound fun k hk h4 => hsounds k h4 hk, hs]
  · have h := hreads (state 3) (hn 3 (by decide)) hread
    rwa [hx] at h

end Chip8.Machine
