import Mathlib.Tactic
import Chip8.Proofs.Execution

/-! What an instruction leaves of each part of the machine.

    `effect_eq` has the whole machine part by part, but for the registers. What a store makes of
    memory is said address by address (`byteAt_store_digits`, `byteAt_store_firstRegisters`);
    `reg_effect` says that an instruction leaves alone the registers that it does not write, and
    `reg_effect_loadRegisters` what a load makes of those that it does. -/

namespace Chip8

/-- Below sixteen a byte is its low four bits. -/
theorem nibble_inj {b c : UInt8} (hb : b.toNat < 16) (hc : c.toNat < 16) :
    nibble b = nibble c ↔ b = c := by
  rw [Fin.ext_iff, ← UInt8.toNat_inj]
  simp only [nibble]
  omega

theorem nibble_ne {b c : UInt8} (hb : b.toNat < 16) (hc : c.toNat < 16) (h : b ≠ c) :
    nibble b ≠ nibble c :=
  mt (nibble_inj hb hc).mp h

/-- Whether an instruction may change a register. -/
def Instruction.writes (r : UInt8) : Instruction → Bool
  | loadImm x _ | addImm x _ | copy x _ | or x _ | and x _ | xor x _ | random x _
  | getDelayTimer x | waitKey x => nibble x == nibble r
  | addReg x _ | subReg x _ | subRegReverse x _ | shiftRight x | shiftLeft x =>
    nibble x == nibble r || nibble 0xf == nibble r
  | draw .. => nibble 0xf == nibble r
  | loadRegisters x => nibble r ≤ x.toNat
  | _ => false

namespace Machine

variable {m : Machine} {i : Instruction} {r : UInt8}

/-- The bytes that an instruction stores at the index. -/
def stores (m : Machine) : Instruction → List UInt8
  | .storeBcd x => decimalDigits (m.reg x)
  | .dumpRegisters x => m.firstRegisters x
  | _ => []

/-- The index that an instruction leaves. -/
def indexAfter (m : Machine) : Instruction → UInt16
  | .setIndex addr => addr
  | .addIndex x => m.index + (m.reg x).toUInt16
  | .loadFontAddr x => Memory.glyphAddr (m.reg x)
  | _ => m.index

/-- The grid that an instruction leaves. -/
def gridAfter (m : Machine) : Instruction → Grid
  | .clearScreen => Grid.dark
  | .draw x y n =>
    (m.grid.draw (m.memory.slice m.index.toNat n.toNat) (m.reg x) (m.reg y)).1
  | _ => m.grid

/-- The source of random bytes that an instruction leaves. -/
def randomAfter (m : Machine) : Instruction → Random
  | .random _ _ => m.random.next.2
  | _ => m.random

/-- The delay timer that an instruction leaves. -/
def delayAfter (m : Machine) : Instruction → UInt8
  | .setDelayTimer x => m.reg x
  | _ => m.delayTimer

/-- The sound timer that an instruction leaves. -/
def soundAfter (m : Machine) : Instruction → UInt8
  | .setSoundTimer x => m.reg x
  | _ => m.soundTimer

/-- What an instruction leaves, part by part. -/
theorem effect_eq (m : Machine) (i : Instruction) : m.effect i =
    { m with
      memory := m.memory.store m.index.toNat (m.stores i)
      registers := (m.effect i).registers
      index := m.indexAfter i
      pc := m.pcAfter i
      stack := m.stackAfter i
      delayTimer := m.delayAfter i
      soundTimer := m.soundAfter i
      grid := m.gridAfter i
      random := m.randomAfter i } := by
  rw [← pc_effect, ← stack_effect]
  cases i <;> simp only [effect, execute, succeed, skipIf_eq]
  -- a wait sets a register or moves the program counter back, as the keypad has it
  case waitKey x => cases hk : m.keypad.firstDown <;> rfl
  all_goals rfl

/-! ### Memory -/

/-- Nothing is in the way of an access that lies in memory. -/
theorem missing_of_le {len : Nat} (h : m.index.toNat + len ≤ 4096) : m.missing len = none := by
  refine if_pos ?_
  simpa [Memory.inRange] using h

/-- An access that nothing is in the way of lies in memory. -/
theorem le_of_missing {len : Nat} (h : m.missing len = none) : m.index.toNat + len ≤ 4096 := by
  simpa [Memory.inRange] using missing_eq_none h

theorem memory_effect (m : Machine) (i : Instruction) :
    (m.effect i).memory = m.memory.store m.index.toNat (m.stores i) :=
  congrArg memory (effect_eq m i)

theorem byteAt_store_digits (memory : Memory) (b : UInt8) {addr : Nat} (h : addr + 3 ≤ 4096)
    (a : Nat) : (memory.store addr (decimalDigits b)).byteAt a =
      if a = addr then b / 100
      else if a = addr + 1 then b / 10 % 10
      else if a = addr + 2 then b % 10
      else memory.byteAt a := by
  rw [Memory.byteAt_store _ _ _ h]
  rcases Nat.lt_or_ge a addr with hlt | hle
  · rw [if_neg (by omega), if_neg (by omega), if_neg (by omega), if_neg (by omega)]
  · obtain ⟨k, rfl⟩ := Nat.exists_eq_add_of_le hle
    rw [if_pos hle, Nat.add_sub_cancel_left]
    match k with
    | 0 | 1 | 2 => simp [decimalDigits]
    | k + 3 => simp [decimalDigits]

theorem byteAt_store_firstRegisters (m : Machine) (x : UInt8) {addr : Nat}
    (h : addr + (x.toNat + 1) ≤ 4096) (a : Nat) :
    (m.memory.store addr (m.firstRegisters x)).byteAt a =
      if addr ≤ a ∧ a ≤ addr + x.toNat then m.reg (.ofNat (a - addr)) else m.memory.byteAt a := by
  rw [Memory.byteAt_store _ _ _ (by simpa using h)]
  by_cases hle : addr ≤ a
  · rw [if_pos hle]
    by_cases hx : a ≤ addr + x.toNat
    · rw [if_pos ⟨hle, hx⟩, firstRegisters, List.getElem?_map, List.getElem?_range (by omega)]
      rfl
    · rw [if_neg (by omega), List.getElem?_eq_none (by simp; omega), Option.getD_none]
  · rw [if_neg hle, if_neg (by omega)]

/-- The digits of a byte are digits, and spell it. -/
theorem decimal_digits (b : UInt8) : b / 100 ≤ 9 ∧ b / 10 % 10 ≤ 9 ∧ b % 10 ≤ 9 ∧
    100 * (b / 100).toNat + 10 * (b / 10 % 10).toNat + (b % 10).toNat = b.toNat := by
  have hb := b.toNat_lt
  simp only [UInt8.le_iff_toNat_le, UInt8.toNat_div, UInt8.toNat_mod, UInt8.reduceToNat]
  omega

/-! ### Registers -/

theorem reg_setFlag (m : Machine) (flag : Bool) (r : UInt8) :
    (m.setFlag flag).reg r = if nibble 0xf = nibble r then (if flag then 1 else 0) else m.reg r :=
  reg_setReg m 0xf r _

theorem reg_setFirstRegisters (m : Machine) (values : List UInt8) (r : UInt8) :
    (m.setFirstRegisters values).reg r = values[(nibble r).val]?.getD (m.reg r) := by
  simp [reg, setFirstRegisters, Bank.entry, Vector.get, Vector.getElem_toArray]

/-- An instruction leaves alone the registers that it does not write. -/
theorem reg_effect (h : i.writes r = false) : (m.effect i).reg r = m.reg r := by
  cases i <;> simp only [Instruction.writes, Bool.or_eq_false_iff, beq_eq_false_iff_ne,
    decide_eq_false_iff_not] at h <;> simp only [effect, execute, succeed, skipIf_eq]
  case loadImm | addImm | copy | or | and | xor | getDelayTimer => rw [reg_setReg, if_neg h]
  case random =>
    rw [reg_setReg, if_neg h]
    rfl
  case waitKey =>
    cases m.keypad.firstDown with
    | none => rfl
    | some key => rw [reg_setReg, if_neg h]
  case addReg | subReg | subRegReverse | shiftRight | shiftLeft =>
    rw [reg_setFlag, if_neg h.2, reg_setReg, if_neg h.1]
  case draw =>
    rw [drawn, reg_setFlag, if_neg h]
    rfl
  case loadRegisters =>
    rw [reg_setFirstRegisters, Memory.getElem?_slice, if_neg (by omega), Option.getD_none]
  all_goals rfl

/-- A load sets the first registers to the bytes from the index on. -/
theorem reg_effect_loadRegisters {x : UInt8} {j : Nat} (hj : j ≤ x.toNat) (hx : x.toNat < 16) :
    (m.effect (.loadRegisters x)).reg (.ofNat j) = m.memory.byteAt (m.index.toNat + j) := by
  have hn : (nibble (.ofNat j)).val = j := by
    simp only [nibble, UInt8.toNat_ofNat']
    omega
  rw [effect, reg_setFirstRegisters, hn, Memory.getElem?_slice, if_pos (by omega),
    Option.getD_some]

end Machine

end Chip8
