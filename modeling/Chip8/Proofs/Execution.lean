import Mathlib.Tactic
import Chip8.Machine.Execute

/-! What the execution of one instruction comes to.

    An instruction meets at most one obstacle, which can be told from the machine before anything is
    done. `execute_of_obstacle` says that the obstacle is then the whole outcome, and
    `execute_of_clear` that without one the instruction succeeds, so there are two ways out
    (`execute_cases`); `pc_effect` and `stack_effect` say where it leaves the program counter and
    the stack. -/

namespace Chip8.Machine

/-! ### Obstacles -/

/-- The fault of an access to `len` bytes at the index, if they do not lie in memory. -/
def missing (m : Machine) (len : Nat) : Option Fault :=
  if Memory.inRange m.index len then none else some (Memory.outOfRange m.index len)

/-- The fault that an instruction meets, if it meets one. -/
def obstacle (m : Machine) : Instruction → Option Fault
  | .ret => if m.stack = [] then some (.stackUnderflow (m.pc - 2)) else none
  | .call _ => if m.stack.length = stackLimit then some (.stackOverflow (m.pc - 2)) else none
  | .draw _ _ n => m.missing n.toNat
  | .storeBcd _ => m.missing 3
  | .dumpRegisters x => m.missing (x.toNat + 1)
  | .loadRegisters x => m.missing (x.toNat + 1)
  | _ => none

variable {m : Machine} {i : Instruction} {f : Fault}

theorem missing_eq_some {len : Nat} (h : m.missing len = some f) :
    Memory.inRange m.index len = false ∧ f = Memory.outOfRange m.index len := by
  rw [missing] at h
  split at h
  · cases h
  · rename_i hr
    cases h
    exact ⟨by simpa using hr, rfl⟩

theorem missing_eq_none {len : Nat} (h : m.missing len = none) :
    Memory.inRange m.index len = true := by
  rw [missing] at h
  split at h
  · assumption
  · cases h

/-- An obstacle is the whole outcome: nothing is changed and nothing reported. -/
theorem execute_of_obstacle (h : m.obstacle i = some f) : m.execute i = m.fail f := by
  cases i <;> simp only [obstacle, reduceCtorEq] at h
  case ret =>
    split at h
    · rename_i hs
      cases h
      simp [execute, hs]
    · cases h
  case call addr =>
    split at h
    · rename_i hs
      cases h
      simp [execute, hs]
    · cases h
  case draw x y n =>
    obtain ⟨hr, rfl⟩ := missing_eq_some h
    simp [execute, drawRows, Memory.read, hr]
  case storeBcd x =>
    obtain ⟨hr, rfl⟩ := missing_eq_some h
    simp [execute, storeAtIndex, Memory.write, decimalDigits, hr]
  case dumpRegisters x =>
    obtain ⟨hr, rfl⟩ := missing_eq_some h
    simp [execute, storeAtIndex, Memory.write, hr]
  case loadRegisters x =>
    obtain ⟨hr, rfl⟩ := missing_eq_some h
    simp [execute, Memory.read, hr]

/-! ### Effects -/

/-- What a draw leaves. -/
def drawn (m : Machine) (x y rows : UInt8) : Machine :=
  let (grid, collision) :=
    m.grid.draw (m.memory.slice m.index.toNat rows.toNat) (m.reg x) (m.reg y)
  { m with grid }.setFlag collision

/-- What a store at the index leaves. -/
def stored (m : Machine) (data : List UInt8) : Machine :=
  { m with memory := m.memory.store m.index.toNat data }

/-- What an instruction leaves where nothing is in its way. -/
def effect (m : Machine) : Instruction → Machine
  | .ret => { m with stack := m.stack.tail, pc := m.stack.headD m.pc }
  | .call addr => { m with stack := m.pc :: m.stack, pc := addr }
  | .draw x y n => m.drawn x y n
  | .storeBcd x => m.stored (decimalDigits (m.reg x))
  | .dumpRegisters x => m.stored (m.firstRegisters x)
  | .loadRegisters x => m.setFirstRegisters (m.memory.slice m.index.toNat (x.toNat + 1))
  | i => (m.execute i).machine

theorem storeAtIndex_eq {data : List UInt8} (h : m.missing data.length = none) :
    m.storeAtIndex data = (m.stored data).succeed () := by
  simp [storeAtIndex, stored, Memory.write, missing_eq_none h]

/-- Without an obstacle an instruction has its effect, and reports nothing. -/
theorem execute_of_clear (h : m.obstacle i = none) : m.execute i = (m.effect i).succeed () := by
  cases i <;> simp only [obstacle] at h
  case ret =>
    cases hs : m.stack with
    | nil => simp [hs] at h
    | cons top rest => simp [execute, effect, hs]
  case call addr =>
    split at h
    · cases h
    · rename_i hs
      simp [execute, effect, hs]
  case draw x y n => simp [execute, drawRows, effect, drawn, Memory.read, missing_eq_none h]
  case storeBcd x => exact storeAtIndex_eq h
  case dumpRegisters x => exact storeAtIndex_eq (by simpa using h)
  case loadRegisters x => simp [execute, effect, Memory.read, missing_eq_none h]
  case waitKey x => cases hk : m.keypad.firstDown <;> simp [execute, effect, hk, succeed]
  all_goals rfl

/-- An instruction fails and leaves the machine as it was, or nothing is in its way and it has its
effect. -/
theorem execute_cases (m : Machine) (i : Instruction) :
    (∃ f, m.execute i = m.fail f) ∨
      m.obstacle i = none ∧ m.execute i = (m.effect i).succeed () := by
  cases ho : m.obstacle i with
  | some f => exact .inl ⟨f, execute_of_obstacle ho⟩
  | none => exact .inr ⟨rfl, execute_of_clear ho⟩

/-! ### The program counter and the stack -/

/-- Whether an instruction skips the next one. -/
def skips (m : Machine) : Instruction → Bool
  | .skipEqImm x nn => m.reg x == nn
  | .skipNeImm x nn => m.reg x != nn
  | .skipEqReg x y => m.reg x == m.reg y
  | .skipNeReg x y => m.reg x != m.reg y
  | .skipKeyDown x => m.keypad.isDown (m.reg x)
  | .skipKeyUp x => !m.keypad.isDown (m.reg x)
  | _ => false

/-- Where an instruction leaves the program counter. -/
def pcAfter (m : Machine) : Instruction → UInt16
  | .ret => m.stack.headD m.pc
  | .jump addr => addr
  | .call addr => addr
  | .jumpOffset addr => addr + (m.reg 0).toUInt16
  | .waitKey _ => if m.keypad.firstDown = none then m.pc - 2 else m.pc
  | i => if m.skips i then m.pc + 2 else m.pc

/-- The return addresses that an instruction leaves. -/
def stackAfter (m : Machine) : Instruction → List UInt16
  | .ret => m.stack.tail
  | .call _ => m.pc :: m.stack
  | _ => m.stack

theorem skipIf_eq (m : Machine) (condition : Bool) :
    m.skipIf condition = { m with pc := if condition then m.pc + 2 else m.pc } := by
  cases condition <;> rfl

theorem pc_effect (m : Machine) (i : Instruction) : (m.effect i).pc = m.pcAfter i := by
  cases i <;> simp only [effect, execute, succeed, skipIf_eq, pcAfter, skips]
  case waitKey x => cases hk : m.keypad.firstDown <;> simp [setReg]
  all_goals rfl

theorem stack_effect (m : Machine) (i : Instruction) : (m.effect i).stack = m.stackAfter i := by
  cases i <;> simp only [effect, execute, succeed, skipIf_eq, stackAfter]
  case waitKey x => cases hk : m.keypad.firstDown <;> simp [setReg]
  all_goals rfl

/-- No instruction touches the retained program, the keypad or the fault. -/
theorem kept_effect (m : Machine) (i : Instruction) :
    (m.effect i).program = m.program ∧ (m.effect i).keypad = m.keypad ∧
      (m.effect i).fault = m.fault := by
  cases i
  case waitKey x =>
    cases hk : m.keypad.firstDown <;> simp [effect, execute, succeed, hk, setReg]
  all_goals
    simp [effect, execute, succeed, skipIf_eq, drawn, stored, setReg, setFlag, setFirstRegisters]

end Chip8.Machine
