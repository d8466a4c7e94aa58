import Mathlib.Tactic
import Chip8.Proofs.Cycle

/-! Machines that differ in one part only, and go on ALIKE.

    Most of a machine is looked at only by the instruction that it executes. So if the instruction
    has the same effect on both of two machines, but for the part in which they differ, then a whole
    cycle has (`cycle_changed`): fetching, the checks, the timers and the latch neither look at the
    part nor touch it. -/

namespace Chip8

/-- An outcome that left another machine. -/
def Outcome.changed {ε α : Type} (o : Outcome ε α) (change : Machine → Machine) : Outcome ε α :=
  { o with machine := change o.machine }

/-- What goes on alike after each of two outcomes makes two outcomes that are alike. -/
theorem Outcome.andThen_changed {ε α β : Type} {o : Outcome ε α} {next : α → Machine → Outcome ε β}
    {change : Machine → Machine}
    (h : ∀ a, o.result = .ok a →
      next a (change o.machine) = (next a o.machine).changed change) :
    (o.changed change).andThen next = (o.andThen next).changed change := by
  cases hr : o.result with
  | error e =>
    have hr' : (o.changed change).result = .error e := hr
    rw [andThen_of_error hr, andThen_of_error hr']
    rfl
  | ok a =>
    have hr' : (o.changed change).result = .ok a := hr
    have hnext : next a (o.changed change).machine = (next a o.machine).changed change := h a hr
    rw [andThen_of_ok hr, andThen_of_ok hr', hnext]
    rfl

namespace Machine

variable {m : Machine} {i : Instruction} {change : Machine → Machine}

/-- A change of a machine that only an instruction's effect can tell. -/
structure Aside (change : Machine → Machine) : Prop where
  memory : ∀ m, (change m).memory = m.memory
  pc : ∀ m, (change m).pc = m.pc
  fault : ∀ m, (change m).fault = m.fault
  obstacle : ∀ m i, (change m).obstacle i = m.obstacle i
  fetched : ∀ m, (change m).fetched = change m.fetched
  tick : ∀ m, (change m).tick = change m.tick
  stopped : ∀ m f, { change m with fault := some f } = change { m with fault := some f }

/-- An instruction whose effect goes past a change has an outcome that does. -/
theorem execute_changed (ha : Aside change) (he : (change m).effect i = change (m.effect i)) :
    (change m).execute i = (m.execute i).changed change := by
  have hsame := ha.obstacle m i
  cases ho : m.obstacle i with
  | some f =>
    rw [ho] at hsame
    rw [execute_of_obstacle ho, execute_of_obstacle hsame]
    rfl
  | none =>
    rw [ho] at hsame
    rw [execute_of_clear ho, execute_of_clear hsame, he]
    rfl

/-- So has a cycle, if the instruction that it executes is such a one. -/
theorem cycle_changed (ha : Aside change)
    (he : ∀ w i, m.fault = none → m.memory.word m.pc = .ok w → Instruction.decode w = some i →
      (change m.fetched).effect i = change (m.fetched.effect i)) :
    (change m).cycle = m.cycle.changed change := by
  have hfault := ha.fault m
  cases hm : m.fault with
  | some f =>
    rw [cycle_of_fault hm, cycle_of_fault (hfault.trans hm)]
    rfl
  | none =>
    have hm' := hfault.trans hm
    have hword : (change m).memory.word (change m).pc = m.memory.word m.pc := by
      rw [ha.memory, ha.pc]
    cases hw : m.memory.word m.pc with
    | error f =>
      rw [cycle_of_outside hm hw, cycle_of_outside hm' (hword.trans hw), ha.stopped]
      rfl
    | ok w =>
      have hw' := hword.trans hw
      cases hd : Instruction.decode w with
      | none =>
        rw [cycle_of_unknown hm hw hd, cycle_of_unknown hm' hw' hd, ha.stopped, ha.pc]
        rfl
      | some i =>
        have hsame : (change m).fetched.obstacle i = m.fetched.obstacle i := by
          rw [ha.fetched, ha.obstacle]
        cases ho : m.fetched.obstacle i with
        | some f =>
          rw [cycle_of_obstacle hm hw hd ho, cycle_of_obstacle hm' hw' hd (hsame.trans ho),
            ha.stopped, ha.pc]
          rfl
        | none =>
          rw [cycle_of_clear hm hw hd ho, cycle_of_clear hm' hw' hd (hsame.trans ho),
            ha.fetched, he w i hm hw hd, ha.tick, ha.pc]
          rfl

end Machine

end Chip8
