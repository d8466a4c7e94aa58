import Mathlib.Tactic
import Chip8.Machine.Trace
import Chip8.Proofs.Cycle

/-! The log is a FAITHFUL record of a run.

    The machine before a cycle tells what the cycle will leave in the log: the line for the word at
    the program counter, unless that word is out of memory or unknown, then the line for the fault,
    if the cycle ends in one (`map_line_cycle`). A run leaves the lines of its cycles in order
    (`lines_cycling`). How many tell of an instruction is counted a cycle at a time: each traces one
    if it succeeds, or if it is the cycle in which an instruction that was fetched and known stops
    the machine, and that happens once as the machine stays stopped (`count_cycleLines`). -/

namespace Chip8.Machine

variable {m : Machine} {f : Fault} {i : Instruction} {n : Nat}

/-! ### One cycle -/

/-- The announcement of a running machine is the line for the word at its program counter. -/
theorem map_line_announced (m : Machine) : m.announced.map Event.line = m.traceLine?.toList := by
  by_cases hp : m.pc.toNat ≤ 4094
  · have hw : m.memory.word m.pc = .ok m.nextWord := Memory.word_of_le hp
    cases hd : Instruction.decode m.nextWord <;>
      simp [announced, hw, traceLine?, hp, hd, Event.line, Event.level, Event.text]
  · have hw := Memory.word_of_gt (m := m.memory) (Nat.not_le.mp hp)
    simp [announced, hw, traceLine?, hp]

theorem map_line_halting (m : Machine) :
    (halting m.cycle.result).map Event.line = m.haltLine?.toList := by
  cases hr : m.cycle.result <;> simp [halting, haltLine?, hr, Event.line, Event.level, Event.text, haltLine]

/-- A cycle leaves the lines that can be told beforehand. -/
theorem map_line_cycle (m : Machine) : m.cycle.log.map Event.line = m.cycleLines := by
  cases hm : m.fault with
  | some f => simp [cycle_of_fault hm, fail, cycleLines, hm]
  | none =>
    rw [log_cycle hm, List.map_append, map_line_announced, map_line_halting, cycleLines, if_pos hm]

/-! ### Many cycles -/

theorem lines_cycling_succ (m : Machine) (n : Nat) :
    m.lines (cycling (n + 1)) = m.cycleLines ++ m.cycle.machine.lines (cycling n) := by
  rw [← map_line_cycle]
  rfl

theorem lines_cycling (m : Machine) (n : Nat) :
    m.lines (cycling n) = (List.range n).flatMap fun k => (m.after (cycling k)).cycleLines := by
  induction n generalizing m with
  | zero => rfl
  | succ n ih =>
    rw [lines_cycling_succ, ih, List.range_succ_eq_map, List.flatMap_cons, List.flatMap_map]
    rfl

/-! ### How many lines -/

/-- The fault that stops an instruction is none of the fetch. -/
theorem stoppedExecuting_of_obstacle (hp : m.pc.toNat ≤ 4094) (h : m.fetched.obstacle i = some f) :
    ({ m with fault := some f } : Machine).stoppedExecuting = true := by
  have missing {len : Nat} (h : m.fetched.missing len = some f) :
      ({ m with fault := some f } : Machine).stoppedExecuting = true := by
    obtain ⟨hr, rfl⟩ := missing_eq_some h
    have hout : ¬ m.index.toNat + len ≤ 4096 := of_decide_eq_false hr
    have hother : (m.index.toNat, len) ≠ (m.pc.toNat, 2) := fun e => by
      obtain ⟨hindex, hlen⟩ := Prod.mk.inj e
      omega
    simpa [stoppedExecuting, Memory.outOfRange, fetched] using hother
  cases i <;> simp only [obstacle, reduceCtorEq] at h
  case ret =>
    split at h <;> cases h
    rfl
  case call =>
    split at h <;> cases h
    rfl
  all_goals exact missing h

/-- A cycle traces an instruction if it succeeds, or if it is the one that the execution of an
instruction stops. -/
theorem count_cycleLines (m : Machine) :
    m.cycleLines.countP Line.traces + (if m.stoppedExecuting then 1 else 0) =
      (if m.cycle.succeeded then 1 else 0) + if m.cycle.machine.stoppedExecuting then 1 else 0 := by
  rw [← map_line_cycle, List.countP_map]
  cases hm : m.fault with
  | some f => simp [cycle_of_fault hm, fail, Outcome.succeeded]
  | none =>
    have hbefore : m.stoppedExecuting = false := by simp [stoppedExecuting, hm]
    rw [hbefore]
    by_cases hp : m.pc.toNat ≤ 4094
    · have hw := Memory.word_of_le (m := m.memory) hp
      cases hd : Instruction.decode (m.memory.wordAt m.pc.toNat) with
      | none =>
        simp [cycle_of_unknown hm hw hd, Outcome.succeeded, stoppedExecuting, Line.traces,
          Event.line, Event.level]
      | some i =>
        cases ho : m.fetched.obstacle i with
        | some f =>
          simp [cycle_of_obstacle hm hw hd ho, Outcome.succeeded, Line.traces, Event.line,
            Event.level, stoppedExecuting_of_obstacle hp ho]
        | none =>
          have hfault : (m.fetched.effect i).tick.fault = none :=
            (kept_effect m.fetched i).2.2.trans hm
          simp [cycle_of_clear hm hw hd ho, Outcome.succeeded, Line.traces, Event.line,
            Event.level, stoppedExecuting, hfault]
    · have hw := Memory.word_of_gt (m := m.memory) (Nat.not_le.mp hp)
      simp [cycle_of_outside hm hw, Outcome.succeeded, stoppedExecuting, Line.traces, Event.line,
        Event.level, Memory.outOfRange]

theorem succeeded_handle_cycle (m : Machine) :
    (m.handle .cycle).succeeded = m.cycle.succeeded := by
  cases hr : m.cycle.result <;>
    simp [handle, reply, Outcome.succeeded, hr, Except.map, Except.mapError]

theorem countP_succeeded_succ (m : Machine) (n : Nat) :
    (m.outcomes (cycling (n + 1))).countP Outcome.succeeded =
      (m.cycle.machine.outcomes (cycling n)).countP Outcome.succeeded +
        if m.cycle.succeeded then 1 else 0 := by
  rw [← succeeded_handle_cycle m]
  exact List.countP_cons

/-- A run traces the instructions of its cycles that succeed, and the one that stops it. -/
theorem count_lines (m : Machine) (n : Nat) :
    (m.lines (cycling n)).countP Line.traces + (if m.stoppedExecuting then 1 else 0) =
      (m.outcomes (cycling n)).countP Outcome.succeeded +
        if (m.after (cycling n)).stoppedExecuting then 1 else 0 := by
  induction n generalizing m with
  | zero => rfl
  | succ n ih =>
    have hfirst := count_cycleLines m
    have hrest := ih m.cycle.machine
    have hafter : m.after (cycling (n + 1)) = m.cycle.machine.after (cycling n) := rfl
    rw [lines_cycling_succ, List.countP_append, countP_succeeded_succ, hafter]
    omega

/-- FAITHFUL: a run of cycles says, one cycle after the other, what instruction is executed, with its
address and its word as memory holds it then, and what fault the cycle ends in; of a cycle whose word
is not in memory or unknown it says the fault alone, and of one that finds the machine stopped
nothing. So as many lines tell of instructions as cycles succeed, and one more exactly if the run
ends at a fault that an instruction met. -/
theorem trace_faithful (m : Machine) (n : Nat) (hm : m.fault = none) :
    m.lines (cycling n) = ((List.range n).flatMap fun k => (m.after (cycling k)).cycleLines) ∧
      (m.lines (cycling n)).countP Line.traces =
        (m.outcomes (cycling n)).countP Outcome.succeeded +
          if (m.after (cycling n)).stoppedExecuting then 1 else 0 := by
  refine ⟨lines_cycling m n, ?_⟩
  have hcount := count_lines m n
  have hrunning : m.stoppedExecuting = false := by simp [stoppedExecuting, hm]
  simpa [hrunning] using hcount

/-- A return is overwritten by a dump that does not fit where the index is by then. The dump is traced
as memory holds it, with the fault that it meets, and the cycles after it leave nothing. -/
theorem trace_faithful_rewritten :
    let program : List UInt8 :=
      [0x60, 0xf1, 0x61, 0x55, 0xa2, 0x0a, 0xf1, 0x55, 0xaf, 0xff, 0x00, 0xee]
    let m := (powerOn (.ofSeed 0)).after [.load program]
    m.fault = none ∧
      m.lines (cycling 8) =
        [(.trace, "200: 60f1  LD V0, 0xf1"), (.trace, "202: 6155  LD V1, 0x55"),
          (.trace, "204: a20a  LD I, 0x20a"), (.trace, "206: f155  LD [I], V1"),
          (.trace, "208: afff  LD I, 0xfff"), (.trace, "20a: f155  LD [I], V1"),
          (.error, "halted: memory access of 2 byte(s) at 0x0fff is outside the 4K address space")] ∧
      (m.lines (cycling 8)).countP Line.traces = 5 + 1 := by
  intro program m
  have hm : m.fault = none := by decide +kernel
  obtain ⟨hlines, hcount⟩ := trace_faithful m 8 hm
  exact ⟨hm, hlines.trans (by decide +kernel), hcount.trans (by decide +kernel)⟩

end Chip8.Machine
