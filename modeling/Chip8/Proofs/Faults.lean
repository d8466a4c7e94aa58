import Mathlib.Tactic
import Chip8.Proofs.Cycle
import Chip8.Proofs.Decoding
import Chip8.Proofs.Loading

/-! What a fault is due to, and what it leaves.

    A failure is ATOMIC: whatever failed, the machine is as it was before, but for the fault that a
    cycle keeps. And it is DETERMINED: the fault of a cycle, with its payload, can be told from the
    program counter, the word there, the stack and the index (`dueFault`), and a cycle that is due
    none succeeds. -/

namespace Chip8

namespace Pattern

/-- How many bytes at the index the instruction of a word reads or writes. -/
def access? (w : Word) : Option Nat :=
  if fits "DXYN" w then some (w.toNat % 16)
  else if fits "FX33" w then some 3
  else if fits "FX55" w ∨ fits "FX65" w then some (w.toNat / 256 % 16 + 1)
  else none

end Pattern

namespace Machine

open Pattern (fits documented access?)

variable {m : Machine} {w : Word} {i : Instruction}

/-! ### Atomicity -/

theorem execute_of_failure {f : Fault} (h : (m.execute i).result = .error f) :
    (m.execute i).machine = m := by
  rcases execute_cases m i with ⟨f', he⟩ | ⟨-, he⟩ <;> rw [he] at h ⊢
  · rfl
  · cases h

theorem fetch_of_failure {f : Fault} (h : m.fetch.result = .error f) : m.fetch.machine = m := by
  rcases fetch_cases m with ⟨f', hf⟩ | ⟨w, -, hf⟩ <;> rw [hf] at h ⊢
  · rfl
  · cases h

theorem load_of_failure {program : List UInt8} {f : Fault}
    (h : (m.load program).result = .error f) : (m.load program).machine = m := by
  rcases load_cases m program with ⟨f', hl⟩ | ⟨-, hl⟩
  · rw [hl]; rfl
  · rw [hl] at h
    cases h

theorem loadFrom_of_failure {source : ByteSource} {e : LoadError}
    (h : (m.loadFrom source).result = .error e) : (m.loadFrom source).machine = m := by
  rcases loadFrom_cases m source with ⟨e', hl⟩ | ⟨program, -, -, hl⟩
  · rw [hl]; rfl
  · rw [hl] at h
    cases h

/-- ATOMIC: an operation that fails leaves every part of the machine as it was. A cycle keeps its
fault besides; the others leave the kept fault alone too. -/
theorem failure_leaves_machine (m : Machine) :
    (m.fault = none →
      ∀ f, m.cycle.result = .error f → m.cycle.machine = { m with fault := some f }) ∧
    (∀ i f, (m.execute i).result = .error f → (m.execute i).machine = m) ∧
    (∀ f, m.fetch.result = .error f → m.fetch.machine = m) ∧
    (∀ program f, (m.load program).result = .error f → (m.load program).machine = m) ∧
    ∀ source e, (m.loadFrom source).result = .error e → (m.loadFrom source).machine = m :=
  ⟨fun _ _ => cycle_of_failure, fun _ _ => execute_of_failure, fun _ => fetch_of_failure,
    fun _ _ => load_of_failure, fun _ _ => loadFrom_of_failure⟩

/-- Every one of the operations can fail: here past the end of memory, with an empty stack, with a
program of one byte too many and with a source that does not open. -/
theorem failure_leaves_machine_at_end :
    let m : Machine := { powerOn (.ofSeed 0) with pc := 0xfff }
    let program := List.replicate 3585 0
    m.cycle.machine = { m with fault := some (.addressOutOfRange 0xfff 2) } ∧
    (m.execute .ret).machine = m ∧ m.fetch.machine = m ∧ (m.load program).machine = m ∧
    (m.loadFrom [.failure .notFound]).machine = m := by
  intro m program
  obtain ⟨hcycle, hexecute, hfetch, hload, hloadFrom⟩ := failure_leaves_machine m
  have hr : m.execute .ret = m.fail (.stackUnderflow (m.pc - 2)) := execute_of_obstacle rfl
  have hl : 3584 < program.length := by rw [List.length_replicate]; decide
  refine ⟨hcycle rfl _ rfl, hexecute .ret (.stackUnderflow (m.pc - 2)) ?_,
    hfetch (.addressOutOfRange 0xfff 2) rfl,
    hload program (.addressOutOfRange 512 program.length) ?_,
    hloadFrom _ (.read .notFound) rfl⟩
  · rw [hr]; rfl
  · rw [load_of_gt hl]; rfl

/-! ### Determination -/

/-- The fault that a known word at the program counter is due. -/
def wordFault (m : Machine) (w : Word) : Option Fault :=
  if w = 0x00ee ∧ m.stack = [] then some (.stackUnderflow m.pc)
  else if fits "2NNN" w ∧ m.stack.length = 16 then some (.stackOverflow m.pc)
  else match access? w with
    | some len =>
      if 4096 < m.index.toNat + len then some (.addressOutOfRange m.index.toNat len) else none
    | none => none

/-- The fault that the next cycle of a running machine is due. -/
def dueFault (m : Machine) : Option Fault :=
  let w := m.memory.wordAt m.pc.toNat
  if 4094 < m.pc.toNat then some (.addressOutOfRange m.pc.toNat 2)
  else if documented w = false then some (.unknownInstruction w m.pc)
  else m.wordFault w

theorem missing_eq (m : Machine) (len : Nat) :
    m.missing len =
      if 4096 < m.index.toNat + len then some (.addressOutOfRange m.index.toNat len)
      else none := by
  simp only [missing, Memory.inRange, Memory.outOfRange, Memory.size, decide_eq_true_eq]
  by_cases h : m.index.toNat + len ≤ 4096
  · rw [if_pos h, if_neg (by omega)]
  · rw [if_neg h, if_pos (by omega)]

/-- The obstacle of a decoded instruction can be told from its word. -/
theorem obstacle_of_decode (h : Instruction.decode w = some i) :
    m.fetched.obstacle i = m.wordFault w := by
  by_cases hw : w = 0x00ee
  · subst hw
    obtain rfl : i = .ret := Option.some.inj (h.symm.trans (by rfl))
    have hcall : fits "2NNN" 0x00ee = false := by decide
    have haccess : access? 0x00ee = none := by decide
    simp [wordFault, hcall, haccess, obstacle, fetched]
  · obtain ⟨entry, hmem, hfit, rfl⟩ := Pattern.mem_table_of_decode h
    simp [wordFault, hw, access?, fits, Pattern.digits, Pattern.places, Pattern.value?_eq,
      -Nat.div_eq_zero_iff] at hfit ⊢
    -- the pattern of each row says which of the other patterns the word fits
    fin_cases hmem <;> simp [Pattern.value?_eq, -Nat.div_eq_zero_iff] at hfit
    all_goals
      first
      | exact absurd (Pattern.eq_iff_digits.mpr hfit) hw
      | simp [obstacle, hfit, fetched, missing_eq, Word.toNat_n, Word.toNat_x, stackLimit]

/-- DETERMINED: a cycle of a running machine ends in the fault it is due, and succeeds if it is due
none. -/
theorem result_cycle (hm : m.fault = none) :
    m.cycle.result = match m.dueFault with
      | some f => .error f
      | none => .ok () := by
  rw [dueFault]
  by_cases hp : 4094 < m.pc.toNat
  · rw [cycle_of_outside hm (Memory.word_of_gt hp), if_pos hp]
    rfl
  have hw := Memory.word_of_le (m := m.memory) (Nat.not_lt.mp hp)
  rw [if_neg hp]
  cases hd : Instruction.decode (m.memory.wordAt m.pc.toNat) with
  | none => rw [cycle_of_unknown hm hw hd, if_pos ((Pattern.decode_eq_none_iff _).mp hd)]
  | some i =>
    have hk : documented (m.memory.wordAt m.pc.toNat) ≠ false := by
      rw [Ne, ← Pattern.decode_eq_none_iff, hd]
      exact Option.some_ne_none i
    rw [if_neg hk, ← obstacle_of_decode hd]
    cases ho : m.fetched.obstacle i with
    | some f => rw [cycle_of_obstacle hm hw hd ho]
    | none => rw [cycle_of_clear hm hw hd ho]

/-- A draw of five rows with four bytes left: the fault carries the index and the rows. -/
theorem result_cycle_draw_at_end :
    let m : Machine :=
      { powerOn (.ofSeed 0) with
        memory := Memory.powerOn.store 0x200 [0xd0, 0x15]
        index := 0xffc }
    m.fault = none ∧ m.cycle.result = .error (.addressOutOfRange 0xffc 5) := by
  intro m
  have hw : m.memory.wordAt m.pc.toNat = 0xd015 := by
    have hb := Memory.byteAt_store Memory.powerOn 0x200 [0xd0, 0x15] (by decide)
    show Memory.wordAt (Memory.powerOn.store 0x200 [0xd0, 0x15]) 0x200 = 0xd015
    simp [Memory.wordAt, hb]
  have hd : m.dueFault = some (.addressOutOfRange 0xffc 5) := by
    rw [dueFault, hw]
    rfl
  refine ⟨rfl, (result_cycle rfl).trans ?_⟩
  rw [hd]

end Machine

end Chip8
