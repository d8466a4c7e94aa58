import Mathlib.Tactic
import Chip8.Machine.History
import Chip8.Proofs.Reset

/-! The fault latch is ABSORBING, and a machine reports its fault ONCE.

    A machine that has stopped keeps its fault through every request but a reset. Cycles find it and
    do nothing at all, so between resets a stopped machine is touched by loads, in its memory and
    its retained program, by changes to its keypad, and by nothing else (`after_of_fault`). And a
    log has a line that begins with `halted: ` exactly where a fault was kept (`haltLines_handle`),
    so over any history there are as many of them as faults kept. -/

namespace Chip8

/-! ### Which lines tell of a halt -/

namespace Text

/-- A hexadecimal numeral begins with a digit. -/
theorem hexDigits_eq_cons (width n : Nat) :
    ∃ c rest, hexDigits width n = c :: rest ∧ c ≠ 'h' := by
  have hdigits : ∀ c ∈ hexDigits width n, c ≠ 'h' := forall_mem_hexDigits (by decide) width n
  cases hd : hexDigits width n with
  | nil =>
    have := length_hexDigits width n
    rw [hd, List.length_nil] at this
    have := Nat.length_toDigits_pos (b := 16) (n := n)
    omega
  | cons c rest => exact ⟨c, rest, rfl, hdigits c (by simp [hd])⟩

end Text

namespace Machine

variable {m : Machine} {f : Fault} {r : Request} {later : List Request}

/-- The fault that an event says stopped the machine. -/
def Event.halt? : Event → Option Fault
  | .halted f => some f
  | _ => none

theorem haltLines_append (log log' : List Event) :
    haltLines (log ++ log') = haltLines log ++ haltLines log' := by
  simp [haltLines]

theorem haltLines_single (e : Event) : haltLines [e] = (e.halt?.map haltLine).toList := by
  cases e with
  | loaded length => simp [haltLines, tellsOfHalt, Event.text, Event.halt?]
  | reset => simp [haltLines, tellsOfHalt, Event.text, Event.halt?]
  | executing pc w i =>
    obtain ⟨c, rest, hd, hc⟩ := Text.hexDigits_eq_cons 3 pc.toNat
    simp [haltLines, tellsOfHalt, Event.text, Event.halt?, hd, hc.symm]
  | halted f => simp [haltLines, tellsOfHalt, Event.text, Event.halt?, haltLine]

/-! ### Requests that leave the latch alone -/

/-- Nothing was reported and the fault, or that there is none, was kept. -/
structure Quiet (m : Machine) (log : List Event) (m' : Machine) : Prop where
  fault : m'.fault = m.fault
  lines : haltLines log = []

theorem quiet_execute (m : Machine) (i : Instruction) :
    Quiet m (m.execute i).log (m.execute i).machine := by
  rcases execute_cases m i with ⟨f, he⟩ | ⟨-, he⟩ <;> rw [he]
  · exact ⟨rfl, rfl⟩
  · exact ⟨(kept_effect m i).2.2, rfl⟩

theorem quiet_executeWord {w : Word} {o : Outcome Fault Unit} (h : m.executeWord w = some o) :
    Quiet m o.log o.machine := by
  obtain ⟨i, -, rfl⟩ := Option.map_eq_some_iff.mp h
  exact quiet_execute m i

theorem quiet_fetch (m : Machine) : Quiet m m.fetch.log m.fetch.machine := by
  rcases fetch_cases m with ⟨f, hf⟩ | ⟨w, -, hf⟩ <;> rw [hf] <;> exact ⟨rfl, rfl⟩

theorem quiet_load (m : Machine) (program : List UInt8) :
    Quiet m (m.load program).log (m.load program).machine := by
  rcases load_cases m program with ⟨f, hl⟩ | ⟨-, hl⟩
  · rw [hl]
    exact ⟨rfl, rfl⟩
  · rw [hl]
    exact ⟨rfl, haltLines_single _⟩

theorem quiet_loadFrom (m : Machine) (source : ByteSource) :
    Quiet m (m.loadFrom source).log (m.loadFrom source).machine := by
  rcases loadFrom_cases m source with ⟨e, hl⟩ | ⟨program, -, -, hl⟩
  · rw [hl]
    exact ⟨rfl, rfl⟩
  · rw [hl]
    exact quiet_load m program

theorem quiet_run_of_fault (h : m.fault = some f) (n : Nat) :
    Quiet m (m.run n).log (m.run n).machine := by
  cases n with
  | zero => exact ⟨rfl, rfl⟩
  | succ n =>
    rw [run, cycle_of_fault h, Outcome.andThen_of_error rfl]
    exact ⟨rfl, rfl⟩

/-- Every request but a reset keeps a fault, and says nothing of it. -/
theorem quiet_handle (h : m.fault = some f) (hr : r ≠ .reset) :
    Quiet m (m.handle r).log (m.handle r).machine := by
  cases r with
  | load program => exact quiet_load m program
  | loadFrom source => exact quiet_loadFrom m source
  | reset => exact absurd rfl hr
  | fetch => exact quiet_fetch m
  | execute i => exact quiet_execute m i
  | executeWord w =>
    rw [handle]
    split
    · exact ⟨rfl, rfl⟩
    · rename_i o ho
      exact quiet_executeWord ho
  | cycle =>
    rw [handle, cycle_of_fault h]
    exact ⟨rfl, rfl⟩
  | run n => exact quiet_run_of_fault h n
  | keys e => exact ⟨rfl, rfl⟩

/-! ### One line for each fault that is kept -/

/-- A cycle that succeeds leaves a machine that runs. -/
theorem fault_cycle_of_ok (h : m.cycle.result = .ok ()) : m.cycle.machine.fault = none := by
  cases hm : m.fault with
  | some f =>
    rw [cycle_of_fault hm] at h
    cases h
  | none =>
    rcases cycle_cases hm with ⟨f, log, hc⟩ | ⟨w, i, -, -, -, hc⟩
    · rw [hc] at h
      cases h
    · rw [hc]
      exact (kept_effect m.fetched i).2.2.trans hm

/-- A cycle of a running machine reports the fault it leaves. -/
theorem haltLines_cycle (hm : m.fault = none) :
    haltLines m.cycle.log = (m.cycle.machine.fault.map haltLine).toList := by
  have hannounced : haltLines m.announced = [] := by
    rcases announced_cases m with ha | ⟨w, i, ha⟩
    · rw [ha]
      rfl
    · rw [ha]
      exact haltLines_single _
  rw [log_cycle hm, haltLines_append, hannounced, List.nil_append]
  cases hr : m.cycle.result with
  | error f =>
    rw [cycle_of_failure hr]
    exact haltLines_single (.halted f)
  | ok _ =>
    rw [fault_cycle_of_ok hr]
    rfl

/-- So do many cycles, which end with the first that leaves a fault. -/
theorem haltLines_run (hm : m.fault = none) (n : Nat) :
    haltLines (m.run n).log = ((m.run n).machine.fault.map haltLine).toList := by
  induction n generalizing m with
  | zero =>
    show [] = (m.fault.map haltLine).toList
    rw [hm]
    rfl
  | succ n ih =>
    have hc := haltLines_cycle hm
    rw [run]
    cases hr : m.cycle.result with
    | error f =>
      rw [Outcome.andThen_of_error hr]
      exact hc
    | ok a =>
      have hf := fault_cycle_of_ok hr
      rw [Outcome.andThen_of_ok hr]
      show haltLines (m.cycle.log ++ (m.cycle.machine.run n).log) = _
      rw [haltLines_append, hc, hf]
      exact ih hf

theorem haltLines_reset (m : Machine) : haltLines m.reset.log = [] := by
  rw [reset_eq]
  split
  · rfl
  · exact haltLines_single .reset

theorem fault_reset_of_running (hm : m.fault = none) : m.reset.machine.fault = none := by
  rw [reset_eq]
  split
  · simp [fail, hm]
  · simp [powerOn]

/-- A request reports a halt if it leaves a fault where there was none, and only then. -/
theorem haltLines_handle (m : Machine) (r : Request) :
    haltLines (m.handle r).log = ((m.latches r).map haltLine).toList := by
  rw [latches]
  cases hm : m.fault with
  | some f =>
    rw [if_neg (Option.some_ne_none f)]
    by_cases hr : r = .reset
    · subst hr
      exact haltLines_reset m
    · exact (quiet_handle hm hr).lines
  | none =>
    rw [if_pos rfl]
    have quiet {m' : Machine} {log : List Event} (h : Quiet m log m') :
        haltLines log = (m'.fault.map haltLine).toList := by
      rw [h.lines, h.fault, hm]
      rfl
    cases r with
    | load program => exact quiet (quiet_load m program)
    | loadFrom source => exact quiet (quiet_loadFrom m source)
    | reset => exact quiet ⟨(fault_reset_of_running hm).trans hm.symm, haltLines_reset m⟩
    | fetch => exact quiet (quiet_fetch m)
    | execute i => exact quiet (quiet_execute m i)
    | executeWord w =>
      rw [handle]
      split
      · exact quiet ⟨rfl, rfl⟩
      · rename_i o ho
        exact quiet (quiet_executeWord ho)
    | cycle => exact haltLines_cycle hm
    | run n => exact haltLines_run hm n
    | keys e => exact quiet ⟨rfl, rfl⟩

theorem haltLines_outcomes (m : Machine) (history : List Request) :
    ((m.outcomes history).flatMap fun o => haltLines o.log) =
      (m.latchings history).map haltLine := by
  induction history generalizing m with
  | nil => rfl
  | cons r rest ih =>
    rw [outcomes, latchings, List.flatMap_cons, haltLines_handle, ih, List.map_append]
    cases m.latches r <;> rfl

/-! ### What reaches a machine that has stopped -/

/-- A stopped machine is touched by a load and by a change to its keypad, and not by a cycle. -/
theorem handle_of_fault (h : m.fault = some f) (hr : r.drives = true) :
    (m.handle r).machine = m.supplied (m.loads r).toList (keypadEdits [r]) := by
  cases r with
  | load | loadFrom | keys => exact handle_of_supplies m rfl
  | cycle =>
    rw [handle, cycle_of_fault h]
    rfl
  | run n =>
    cases n with
    | zero => rfl
    | succ n =>
      rw [handle, run, cycle_of_fault h, Outcome.andThen_of_error rfl]
      rfl
  | reset | fetch | execute | executeWord => cases hr

theorem after_of_fault (h : m.fault = some f) (hl : ∀ r ∈ later, r.drives = true) :
    m.after later = m.supplied (m.loaded later) (keypadEdits later) :=
  after_eq_supplied (P := fun m => m.fault = some f)
    (fun _ r hr hm => handle_of_fault hm (hl r hr)) (fun _ _ _ hm => hm) h

/-- What a stopped machine is put through leaves no line that tells of a halt. -/
theorem latchings_of_fault (h : m.fault = some f) (hl : ∀ r ∈ later, r.drives = true) :
    m.latchings later = [] := by
  induction later generalizing m with
  | nil => rfl
  | cons r rest ih =>
    obtain ⟨hr, hrest⟩ := List.forall_mem_cons.mp hl
    have hf : (m.handle r).machine.fault = some f := by rw [handle_of_fault h hr]; exact h
    rw [latchings, latches, h, if_neg (Option.some_ne_none f), ih hf hrest]
    rfl

/-! ### The latch -/

theorem fault_of_failure {f : Fault} (h : m.cycle.result = .error f) :
    m.cycle.machine.fault = some f := by
  rw [cycle_of_failure h]

theorem fault_reset_after (random : Random) (history : List Request) :
    ((powerOn random).after history).reset.machine.fault = none := by
  have hlength := length_program_after random history
  rw [reset_of_le hlength, load_of_le hlength]
  rfl

/-- ABSORBING: after a cycle that failed, whatever is loaded and whatever keys are pressed, every
cycle answers with the same fault, changes nothing and reports nothing, and the loads and the
changes to the keypad have their own effect only. ONCE: the cycle that found no fault and left one
tells of the halt, and over any history there is one such line for each time that happens. Only a
reset takes the fault away. -/
theorem latch_absorbs (m : Machine) :
    (∀ f, m.cycle.result = .error f → ∀ later, (∀ r ∈ later, r.drives = true) →
      let stopped := m.cycle.machine
      let now := stopped.after later
      now = stopped.supplied (stopped.loaded later) (keypadEdits later) ∧ now.fault = some f ∧
        now.cycle = ⟨.error f, now, []⟩ ∧
        ((stopped.outcomes later).flatMap fun o => haltLines o.log) = []) ∧
    (∀ f, m.fault = none → m.cycle.result = .error f → haltLines m.cycle.log = [haltLine f]) ∧
    (∀ history, ((m.outcomes history).flatMap fun o => haltLines o.log) =
      (m.latchings history).map haltLine) ∧
    (∀ f r, m.fault = some f → r ≠ .reset → (m.handle r).machine.fault = some f) ∧
    ∀ random history, ((powerOn random).after history).reset.machine.fault = none := by
  refine ⟨?_, ?_, haltLines_outcomes m, ?_, fault_reset_after⟩
  · intro f h later hl stopped now
    have hstopped : stopped.fault = some f := fault_of_failure h
    have hnow : now = stopped.supplied (stopped.loaded later) (keypadEdits later) :=
      after_of_fault hstopped hl
    have hf : now.fault = some f := by rw [hnow]; exact hstopped
    refine ⟨hnow, hf, cycle_of_fault hf, ?_⟩
    rw [haltLines_outcomes, latchings_of_fault hstopped hl]
    rfl
  · intro f hm h
    rw [haltLines_cycle hm, fault_of_failure h]
    rfl
  · intro f r h hr
    exact (quiet_handle h hr).fault.trans h

/-- A return without a call stops a machine, which then does not run the program that is loaded
over it. -/
theorem latch_absorbs_repaired :
    let m := ((powerOn (.ofSeed 0)).load [0x00, 0xee]).machine
    let f := Fault.stackUnderflow 0x200
    let later : List Request := [.cycle, .load [0x12, 0x00], .keys (.press 5), .cycle]
    let stopped := m.cycle.machine
    let now := stopped.after later
    m.fault = none ∧ m.cycle.result = .error f ∧ (∀ r ∈ later, r.drives = true) ∧
      haltLines m.cycle.log = [haltLine f] ∧
      now = stopped.supplied (stopped.loaded later) (keypadEdits later) ∧
      stopped.loaded later = [[0x12, 0x00]] ∧ keypadEdits later = [.press 5] ∧
      now.cycle = ⟨.error f, now, []⟩ ∧ now.fetch.machine.fault = some f := by
  intro m f later stopped now
  have hm : m.fault = none := by decide +kernel
  have hc : m.cycle.result = .error f := by decide +kernel
  have hl : ∀ r ∈ later, r.drives = true := by decide
  obtain ⟨habsorbs, honce, -, hkeeps, -⟩ := latch_absorbs m
  obtain ⟨hnow, hf, hcycle, -⟩ := habsorbs f hc later hl
  exact ⟨hm, hc, hl, honce f hm hc, hnow, by decide +kernel, rfl, hcycle,
    (latch_absorbs now).2.2.2.1 f .fetch hf (by decide)⟩

end Machine
end Chip8
