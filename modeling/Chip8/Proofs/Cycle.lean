import Mathlib.Tactic
import Chip8.Machine.Cycle
import Chip8.Proofs.Execution

/-! How one cycle of a running machine can go.

    There are four courses, told apart before anything is done: no word at the program counter, a
    word that is unknown, an instruction that meets an obstacle, and an instruction that has its
    effect. Each has an equation for the whole outcome, its result, the machine and the report;
    `cycle_cases` is what the laws about cycles start from, `machine_cycle_cases` what those about
    the machine that is left do, and `log_cycle` what those about the report do. -/

namespace Chip8.Machine

variable {m : Machine} {w : Word} {i : Instruction} {f : Fault}

/-- The machine past the word at the program counter. -/
def fetched (m : Machine) : Machine := { m with pc := m.pc + 2 }

theorem fetch_of_ok (hw : m.memory.word m.pc = .ok w) : m.fetch = m.fetched.succeed w := by
  simp [fetch, hw, fetched]

theorem fetch_of_error (hw : m.memory.word m.pc = .error f) : m.fetch = m.fail f := by
  simp [fetch, hw]

/-- A fetch fails and leaves the machine as it was, or moves it past the word. -/
theorem fetch_cases (m : Machine) :
    (∃ f, m.fetch = m.fail f) ∨
      ∃ w, m.memory.word m.pc = .ok w ∧ m.fetch = m.fetched.succeed w := by
  cases hw : m.memory.word m.pc with
  | error f => exact .inl ⟨f, fetch_of_error hw⟩
  | ok w => exact .inr ⟨w, rfl, fetch_of_ok hw⟩

theorem le_of_word {w : Word} (hw : m.memory.word m.pc = .ok w) : m.pc.toNat ≤ 4094 := by
  by_contra hp
  rw [Memory.word_of_gt (Nat.lt_of_not_le hp)] at hw
  cases hw

theorem nextWord_of_word (hw : m.memory.word m.pc = .ok w) : m.nextWord = w := by
  rw [Memory.word_of_le (le_of_word hw)] at hw
  exact Except.ok.inj hw

theorem toNat_pc_fetched (h : m.pc.toNat ≤ 4094) : m.fetched.pc.toNat = m.pc.toNat + 2 := by
  simp only [fetched, UInt16.toNat_add, UInt16.reduceToNat]
  omega

/-- A timer counts down and stops at zero. -/
theorem toNat_countDown (t : UInt8) : (if t > 0 then t - 1 else t).toNat = t.toNat - 1 := by
  split
  · rename_i h
    exact UInt8.toNat_sub_of_le _ _ (UInt8.le_iff_toNat_le.mpr (UInt8.lt_iff_toNat_lt.mp h))
  · rename_i h
    have hzero : ¬ 0 < t.toNat := fun ht => h (UInt8.lt_iff_toNat_lt.mpr ht)
    omega

theorem toNat_delayTimer_tick (m : Machine) :
    m.tick.delayTimer.toNat = m.delayTimer.toNat - 1 :=
  toNat_countDown m.delayTimer

theorem toNat_soundTimer_tick (m : Machine) :
    m.tick.soundTimer.toNat = m.soundTimer.toNat - 1 :=
  toNat_countDown m.soundTimer

/-! ### The four courses -/

theorem cycle_of_outside (hm : m.fault = none) (hw : m.memory.word m.pc = .error f) :
    m.cycle = ⟨.error f, { m with fault := some f }, [.halted f]⟩ := by
  have hs : m.step = m.fail f := by
    rw [step, fetch_of_error hw]
    exact Outcome.andThen_of_error rfl
  simp [cycle, hm, hs, fail, halt]

theorem cycle_of_unknown (hm : m.fault = none) (hw : m.memory.word m.pc = .ok w)
    (hd : Instruction.decode w = none) :
    m.cycle = ⟨.error (.unknownInstruction w m.pc),
      { m with fault := some (.unknownInstruction w m.pc) },
      [.halted (.unknownInstruction w m.pc)]⟩ := by
  have hs : m.step = m.fetched.fail (.unknownInstruction w m.pc) := by
    rw [step, fetch_of_ok hw, Outcome.andThen_of_ok rfl]
    simp [succeed, perform, hd, fail]
  simp [cycle, hm, hs, fail, halt, fetched]

theorem cycle_of_obstacle (hm : m.fault = none) (hw : m.memory.word m.pc = .ok w)
    (hd : Instruction.decode w = some i) (ho : m.fetched.obstacle i = some f) :
    m.cycle = ⟨.error f, { m with fault := some f }, [.executing m.pc w i, .halted f]⟩ := by
  have hs : m.step = ⟨.error f, m.fetched, [.executing m.pc w i]⟩ := by
    rw [step, fetch_of_ok hw, Outcome.andThen_of_ok rfl]
    simp [succeed, perform, hd, announce, Outcome.andThen, execute_of_obstacle ho, fail]
  simp [cycle, hm, hs, halt, fetched]

theorem cycle_of_clear (hm : m.fault = none) (hw : m.memory.word m.pc = .ok w)
    (hd : Instruction.decode w = some i) (ho : m.fetched.obstacle i = none) :
    m.cycle = ⟨.ok (), (m.fetched.effect i).tick, [.executing m.pc w i]⟩ := by
  have hs : m.step = ⟨.ok (), (m.fetched.effect i).tick, [.executing m.pc w i]⟩ := by
    rw [step, fetch_of_ok hw, Outcome.andThen_of_ok rfl]
    simp [succeed, perform, hd, announce, Outcome.andThen, execute_of_clear ho]
  simp [cycle, hm, hs]

/-- A cycle of a running machine either stops it with a fault and changes nothing else, or has the
effect of the instruction at the program counter. -/
theorem cycle_cases (hm : m.fault = none) :
    (∃ f log, m.cycle = ⟨.error f, { m with fault := some f }, log⟩) ∨
      ∃ w i, m.memory.word m.pc = .ok w ∧ Instruction.decode w = some i ∧
        m.fetched.obstacle i = none ∧
        m.cycle = ⟨.ok (), (m.fetched.effect i).tick, [.executing m.pc w i]⟩ := by
  cases hw : m.memory.word m.pc with
  | error f => exact .inl ⟨f, _, cycle_of_outside hm hw⟩
  | ok w =>
    cases hd : Instruction.decode w with
    | none => exact .inl ⟨_, _, cycle_of_unknown hm hw hd⟩
    | some i =>
      cases ho : m.fetched.obstacle i with
      | some f => exact .inl ⟨f, _, cycle_of_obstacle hm hw hd ho⟩
      | none => exact .inr ⟨w, i, rfl, hd, ho, cycle_of_clear hm hw hd ho⟩

/-- A cycle that succeeds has the effect of the instruction that the word at the program counter
stands for. -/
theorem cycle_of_success (h : m.cycle.result = .ok ()) :
    m.pc.toNat ≤ 4094 ∧ ∃ i, Instruction.decode m.nextWord = some i ∧
      m.fetched.obstacle i = none ∧ m.cycle.machine = (m.fetched.effect i).tick := by
  cases hm : m.fault with
  | some f =>
    rw [cycle_of_fault hm] at h
    cases h
  | none =>
    rcases cycle_cases hm with ⟨f, log, hc⟩ | ⟨w, i, hw, hd, ho, hc⟩
    · rw [hc] at h
      cases h
    · obtain rfl : m.nextWord = w := nextWord_of_word hw
      exact ⟨le_of_word hw, i, hd, ho, by rw [hc]⟩

/-- A cycle that fails leaves the machine as it was, with the fault kept, be it that it met the fault
or that it found it. -/
theorem cycle_of_failure (h : m.cycle.result = .error f) :
    m.cycle.machine = { m with fault := some f } := by
  cases hm : m.fault with
  | some f' =>
    rw [cycle_of_fault hm] at h ⊢
    cases h
    rw [← hm]
    rfl
  | none =>
    rcases cycle_cases hm with ⟨f', log, hc⟩ | ⟨w, i, -, -, -, hc⟩
    · rw [hc] at h ⊢
      cases h
      rfl
    · rw [hc] at h
      cases h

/-- Whether or not a machine runs, a cycle stops it with a fault and leaves the rest of it as it was,
or has the effect of an instruction. -/
theorem machine_cycle_cases (m : Machine) :
    (∃ f, m.cycle.machine = { m with fault := some f }) ∨
      m.pc.toNat ≤ 4094 ∧ ∃ i, Instruction.decode m.nextWord = some i ∧
        m.fetched.obstacle i = none ∧ m.cycle.machine = (m.fetched.effect i).tick := by
  cases hr : m.cycle.result with
  | error f => exact .inl ⟨f, cycle_of_failure hr⟩
  | ok _ => exact .inr (cycle_of_success hr)

/-! ### What a cycle reports -/

/-- The report of the instruction that a cycle comes to, if there is one. -/
def announced (m : Machine) : List Event :=
  match m.memory.word m.pc with
  | .error _ => []
  | .ok w => ((Instruction.decode w).map (Event.executing m.pc w)).toList

/-- The report of the fault that a cycle met, if it met one. -/
def halting : Except Fault Unit → List Event
  | .ok _ => []
  | .error f => [.halted f]

/-- A cycle of a running machine reports the instruction and then the fault. -/
theorem log_cycle (hm : m.fault = none) : m.cycle.log = m.announced ++ halting m.cycle.result := by
  cases hw : m.memory.word m.pc with
  | error f => simp [cycle_of_outside hm hw, announced, hw, halting]
  | ok w =>
    cases hd : Instruction.decode w with
    | none => simp [cycle_of_unknown hm hw hd, announced, hw, hd, halting]
    | some i =>
      cases ho : m.fetched.obstacle i with
      | some f => simp [cycle_of_obstacle hm hw hd ho, announced, hw, hd, halting]
      | none => simp [cycle_of_clear hm hw hd ho, announced, hw, hd, halting]

/-- A machine has at most one instruction to announce. -/
theorem announced_cases (m : Machine) :
    m.announced = [] ∨ ∃ w i, m.announced = [.executing m.pc w i] := by
  cases hw : m.memory.word m.pc with
  | error f => exact .inl (by simp [announced, hw])
  | ok w =>
    cases hd : Instruction.decode w with
    | none => exact .inl (by simp [announced, hw, hd])
    | some i => exact .inr ⟨w, i, by simp [announced, hw, hd]⟩

/-! ### Many cycles -/

/-- What every cycle keeps, a run of cycles keeps. -/
theorem run_induction {P : Machine → Prop} (step : ∀ m, P m → P m.cycle.machine) (n : Nat)
    (h : P m) : P (m.run n).machine := by
  induction n generalizing m with
  | zero => exact h
  | succ n ih =>
    rw [run]
    cases hr : m.cycle.result with
    | error f =>
      rw [Outcome.andThen_of_error hr]
      exact step m h
    | ok a =>
      rw [Outcome.andThen_of_ok hr]
      exact ih (step m h)

end Chip8.Machine
