import Mathlib.Tactic
import Chip8.Machine.History

/-! When a program can be loaded, and what loading and a reset then leave.

    There is room for 3584 bytes. A program that fits is written and kept; one that does not, or
    that cannot be read to its end, changes nothing. Loads and changes to the keypad are what a
    machine is SUPPLIED with: many of them come to some programs written one over the other and
    some keys set, and to nothing else (`after_of_supplies`). -/

namespace Chip8.Machine

variable {m : Machine} {program : List UInt8} {source : ByteSource} {e : ReadError}

theorem inRange_programStart (len : Nat) :
    Memory.inRange Memory.programStart len = decide (len ≤ 3584) := by
  have hs : Memory.programStart.toNat = 512 := rfl
  simp only [Memory.inRange, hs, Memory.size, decide_eq_decide]
  omega

theorem load_of_le (h : program.length ≤ 3584) :
    m.load program = ⟨.ok (),
      { m with memory := m.memory.store Memory.programStart.toNat program, program },
      [.loaded program.length]⟩ := by
  simp [load, Memory.loadProgram, Memory.write, inRange_programStart, h]

theorem load_of_gt (h : 3584 < program.length) :
    m.load program = m.fail (.addressOutOfRange 512 program.length) := by
  have hr : Memory.inRange Memory.programStart program.length = false := by
    rw [inRange_programStart, decide_eq_false_iff_not]
    omega
  simp only [load, Memory.loadProgram, Memory.write, hr]
  rfl

theorem loadFrom_of_error (h : source.contents = .error e) :
    m.loadFrom source = m.fail (.read e) := by
  simp [loadFrom, h]

theorem loadFrom_of_gt (hc : source.contents = .ok program) (h : 3584 < program.length) :
    m.loadFrom source = m.fail (.fault (.addressOutOfRange 512 program.length)) := by
  simp [loadFrom, hc, load_of_gt h, fail]

theorem loadFrom_of_le (hc : source.contents = .ok program) (h : program.length ≤ 3584) :
    m.loadFrom source = ⟨.ok program.length, (m.load program).machine, (m.load program).log⟩ := by
  simp [loadFrom, hc, load_of_le h]

/-- A load either fails and changes nothing, or has found a program that fits. -/
theorem load_cases (m : Machine) (program : List UInt8) :
    (∃ f, m.load program = m.fail f) ∨
      program.length ≤ 3584 ∧ m.load program = ⟨.ok (),
        { m with memory := m.memory.store Memory.programStart.toNat program, program },
        [.loaded program.length]⟩ := by
  rcases Nat.lt_or_ge 3584 program.length with hl | hl
  · exact .inl ⟨_, load_of_gt hl⟩
  · exact .inr ⟨hl, load_of_le hl⟩

/-- A load from a source either fails and changes nothing, or is the load of what it delivers. -/
theorem loadFrom_cases (m : Machine) (source : ByteSource) :
    (∃ e, m.loadFrom source = m.fail e) ∨
      ∃ program, source.contents = .ok program ∧ program.length ≤ 3584 ∧
        m.loadFrom source =
          ⟨.ok program.length, (m.load program).machine, (m.load program).log⟩ := by
  cases hc : source.contents with
  | error e => exact .inl ⟨_, loadFrom_of_error hc⟩
  | ok program =>
    rcases Nat.lt_or_ge 3584 program.length with hl | hl
    · exact .inl ⟨_, loadFrom_of_gt hc hl⟩
    · exact .inr ⟨program, rfl, hl, loadFrom_of_le hc hl⟩

/-- A program that was kept can be loaded again, and then a reset is a start. -/
theorem reset_of_le (h : m.program.length ≤ 3584) :
    m.reset = ⟨.ok (), ((powerOn m.random).load m.program).machine, [.reset]⟩ := by
  rw [load_of_le h]
  simp [reset_eq, powerOn, Memory.loadProgram, Memory.write, inRange_programStart, h]

/-! ### Supplies -/

theorem supplied_supplied (m : Machine) (programs programs' : List (List UInt8))
    (edits edits' : List Keypad.Edit) :
    (m.supplied programs edits).supplied programs' edits' =
      m.supplied (programs ++ programs') (edits ++ edits') := by
  simp [supplied, List.getLast?_append]

theorem load_eq_supplied (m : Machine) (program : List UInt8) :
    (m.load program).machine = m.supplied (m.loads (.load program)).toList [] := by
  rcases load_cases m program with ⟨f, hl⟩ | ⟨-, hl⟩
  · simp [loads, hl, fail, Outcome.succeeded, supplied]
  · simp [loads, hl, Outcome.succeeded, supplied]

theorem loadFrom_eq_supplied (m : Machine) (source : ByteSource) :
    (m.loadFrom source).machine = m.supplied (m.loads (.loadFrom source)).toList [] := by
  rcases loadFrom_cases m source with ⟨e, hl⟩ | ⟨program, hc, hlen, hl⟩
  · simp [loads, hl, fail, Outcome.succeeded, supplied]
  · simp [loads, hl, hc, load_of_le hlen, Outcome.succeeded, Except.toOption, supplied]

theorem handle_of_supplies (m : Machine) {r : Request} (h : r.supplies = true) :
    (m.handle r).machine = m.supplied (m.loads r).toList (keypadEdits [r]) := by
  cases r with
  | load program => exact load_eq_supplied m program
  | loadFrom source => exact loadFrom_eq_supplied m source
  | keys e => rfl
  | reset | fetch | execute | executeWord | cycle | run => cases h

/-- If each of some requests only supplies a machine that is in some state, and a supply leaves it in
that state, then all of them only supply it. -/
theorem after_eq_supplied {m : Machine} {later : List Request} {P : Machine → Prop}
    (hstep : ∀ m, ∀ r ∈ later, P m →
      (m.handle r).machine = m.supplied (m.loads r).toList (keypadEdits [r]))
    (hkeep : ∀ m programs edits, P m → P (m.supplied programs edits)) (hm : P m) :
    m.after later = m.supplied (m.loaded later) (keypadEdits later) := by
  induction later generalizing m with
  | nil => rfl
  | cons r rest ih =>
    have hr := hstep m r (List.mem_cons_self ..) hm
    have hrest := fun m' r' h => hstep m' r' (List.mem_cons_of_mem r h)
    have hkeys : keypadEdits (r :: rest) = keypadEdits [r] ++ keypadEdits rest :=
      List.filterMap_append (l := [r])
    show (m.handle r).machine.after rest = _
    rw [ih hrest (hr ▸ hkeep m _ _ hm), loaded, hkeys, ← supplied_supplied, ← hr]

theorem after_of_supplies {m : Machine} {later : List Request}
    (h : ∀ r ∈ later, r.supplies = true) :
    m.after later = m.supplied (m.loaded later) (keypadEdits later) :=
  after_eq_supplied (P := fun _ => True) (fun m r hr _ => handle_of_supplies m (h r hr))
    (fun _ _ _ _ => trivial) trivial

end Chip8.Machine
