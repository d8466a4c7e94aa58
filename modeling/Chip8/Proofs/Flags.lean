import Mathlib.Tactic
import Chip8.Machine.Flags
import Chip8.Proofs.Effects

/-! Arithmetic with a flag is EXACT, whichever registers its operands are in.

    The operands are read before anything is written, and the flag is written last. So the byte and
    the flag depend on the two operands alone (`Flagged.byte`, `Flagged.flag`), and they are the
    result in whole numbers (`exact_byte`). Where `VX` is itself the flag register, it is the flag
    that stays (`flags_setFlag`). -/

namespace Chip8

namespace Flagged

variable {m : Machine} {op : Flagged} {x y : UInt8}

/-- The byte that an operation makes of its operands. -/
def byte : Flagged → UInt8 → UInt8 → UInt8
  | add, a, b => a + b
  | subtract, a, b => a - b
  | subtractFrom, a, b => b - a
  | halve, a, _ => a >>> 1
  | double, a, _ => a <<< 1

/-- The flag that an operation makes of its operands. -/
def flag : Flagged → UInt8 → UInt8 → Bool
  | add, a, b => a.toNat + b.toNat ≥ 256
  | subtract, a, b => a ≥ b
  | subtractFrom, a, b => b ≥ a
  | halve, a, _ => a &&& 1 == 1
  | double, a, _ => a >>> 7 == 1

/-! ### In whole numbers -/

theorem exact_add (a b : UInt8) :
    (a + b).toNat + 256 * (decide (a.toNat + b.toNat ≥ 256)).toNat = a.toNat + b.toNat := by
  have ha := a.toNat_lt
  have hb := b.toNat_lt
  rw [UInt8.toNat_add]
  by_cases h : a.toNat + b.toNat ≥ 256
  · rw [decide_eq_true h, Bool.toNat_true]
    omega
  · rw [decide_eq_false h, Bool.toNat_false]
    omega

theorem exact_sub (a b : UInt8) :
    (a - b).toNat + b.toNat = a.toNat + 256 * (1 - (decide (a ≥ b)).toNat) := by
  have ha := a.toNat_lt
  have hb := b.toNat_lt
  rw [UInt8.toNat_sub]
  by_cases h : a ≥ b
  · have hle := UInt8.le_iff_toNat_le.mp h
    rw [decide_eq_true h, Bool.toNat_true]
    omega
  · have hlt := UInt8.lt_iff_toNat_lt.mp (UInt8.not_le.mp h)
    rw [decide_eq_false h, Bool.toNat_false]
    omega

/-- A bit as a truth value counts as much as the bit. -/
theorem toNat_beq_one {bit : UInt8} (h : bit.toNat ≤ 1) : (bit == 1).toNat = bit.toNat := by
  obtain h | h : bit.toNat = 0 ∨ bit.toNat = 1 := by omega
  · obtain rfl : bit = 0 := UInt8.toNat_inj.mp h
    rfl
  · obtain rfl : bit = 1 := UInt8.toNat_inj.mp h
    rfl

theorem exact_shiftRight (a : UInt8) :
    2 * (a >>> 1).toNat + (a &&& 1 == 1).toNat = a.toNat := by
  have hhalf : (a >>> 1).toNat = a.toNat / 2 := by simp [Nat.shiftRight_eq_div_pow]
  have hbit : (a &&& 1).toNat = a.toNat % 2 := by simp [Nat.and_one_is_mod]
  rw [toNat_beq_one (by omega), hbit, hhalf]
  omega

theorem exact_shiftLeft (a : UInt8) :
    (a <<< 1).toNat + 256 * (a >>> 7 == 1).toNat = 2 * a.toNat := by
  have ha := a.toNat_lt
  have hdouble : (a <<< 1).toNat = a.toNat * 2 % 256 := by simp [Nat.shiftLeft_eq]
  have hbit : (a >>> 7).toNat = a.toNat / 128 := by simp [Nat.shiftRight_eq_div_pow]
  rw [toNat_beq_one (by omega), hbit, hdouble]
  omega

/-- The byte and the flag are exact. -/
theorem exact_byte (op : Flagged) (a b : UInt8) :
    op.Exact a.toNat b.toNat (op.byte a b).toNat (op.flag a b).toNat := by
  cases op with
  | add => exact exact_add a b
  | subtract => exact exact_sub a b
  | subtractFrom => exact exact_sub b a
  | halve => exact exact_shiftRight a
  | double => exact exact_shiftLeft a

/-! ### In the registers -/

/-- An operation sets `VX` and then the flag, from the operands as they were. -/
theorem execute_instruction (m : Machine) (op : Flagged) (x y : UInt8) :
    m.execute (op.instruction x y) =
      ((m.setReg x (op.byte (m.reg x) (m.reg y))).setFlag
        (op.flag (m.reg x) (m.reg y))).succeed () := by
  cases op <;> rfl

end Flagged

namespace Machine

/-- A register that is set before the flag stays set unless it is the flag register. -/
theorem flags_setFlag {m : Machine} {x : UInt8} (hx : x.toNat < 16) (r : UInt8) (flag : Bool) :
    m.Flags x r (if flag then 1 else 0) ((m.setReg x r).setFlag flag) where
  flag := by rw [reg_setFlag, if_pos rfl]
  byte hne := by
    rw [reg_setFlag, if_neg (nibble_ne (by decide) hx hne.symm), reg_setReg, if_pos rfl]
  others z hz hzx hzf := by
    rw [reg_setFlag, if_neg (nibble_ne (by decide) hz hzf.symm), reg_setReg,
      if_neg (nibble_ne hx hz hzx.symm)]
  rest := rfl

/-- Arithmetic without a flag changes `VX` and nothing else. -/
theorem execute_unflagged (m : Machine) {x y nn : UInt8} (hx : x.toNat < 16) {i : Instruction}
    (hi : i ∈ Instruction.unflagged x y nn) :
    (m.execute i).result = .ok () ∧
      (∀ z, z.toNat < 16 → z ≠ x → (m.execute i).machine.reg z = m.reg z) ∧
      (m.execute i).machine = { m with registers := (m.execute i).machine.registers } := by
  obtain ⟨r, hr⟩ : ∃ r, m.execute i = (m.setReg x r).succeed () := by
    simp only [Instruction.unflagged, List.mem_cons, List.not_mem_nil, or_false] at hi
    rcases hi with rfl | rfl | rfl | rfl | rfl <;> exact ⟨_, rfl⟩
  rw [hr]
  refine ⟨rfl, fun z hz hne => ?_, rfl⟩
  exact (reg_setReg m x z r).trans (if_neg (nibble_ne hx hz hne.symm))

/-- EXACT: an addition, a subtraction either way round, a halving and a doubling make of their
operands a byte and a flag that are exact in whole numbers, and no others would be. Wherever the
operands are, in one register or in the flag register, the flag ends in the flag register, the byte
in `VX` if that is another one, and every other register is as it was. Arithmetic without a flag
changes no register but `VX`, so not the flag register unless it is `VX`; adding to the index
changes none. -/
theorem flags_exact :
    (∀ (op : Flagged) (a b : UInt8), ∃ r f : UInt8,
      f.toNat ≤ 1 ∧ op.Exact a.toNat b.toNat r.toNat f.toNat ∧
      (∀ r' f' : UInt8, f'.toNat ≤ 1 → op.Exact a.toNat b.toNat r'.toNat f'.toNat →
        r' = r ∧ f' = f) ∧
      ∀ (m : Machine) (x y : UInt8), x.toNat < 16 → y.toNat < 16 → m.reg x = a → m.reg y = b →
        let o := m.execute (op.instruction x y)
        o.result = .ok () ∧ m.Flags x r f o.machine) ∧
    ∀ (m : Machine) (x y nn : UInt8), x.toNat < 16 → y.toNat < 16 →
      (∀ i ∈ Instruction.unflagged x y nn,
        let o := m.execute i
        o.result = .ok () ∧ (∀ z, z.toNat < 16 → z ≠ x → o.machine.reg z = m.reg z) ∧
          o.machine = { m with registers := o.machine.registers }) ∧
      let o := m.execute (.addIndex x)
      o.result = .ok () ∧ o.machine = { m with index := o.machine.index } := by
  refine ⟨fun op a b => ?_, fun m x y nn hx _ => ⟨fun i hi => execute_unflagged m hx hi, rfl, rfl⟩⟩
  have hflag (flag : Bool) : (if flag then 1 else 0 : UInt8).toNat = flag.toNat := by
    cases flag <;> rfl
  have hle : (if op.flag a b then 1 else 0 : UInt8).toNat ≤ 1 := by
    rw [hflag]
    exact Bool.toNat_le _
  have hexact : op.Exact a.toNat b.toNat (op.byte a b).toNat
      (if op.flag a b then 1 else 0 : UInt8).toNat := by
    rw [hflag]
    exact op.exact_byte a b
  refine ⟨op.byte a b, if op.flag a b then 1 else 0, hle, hexact, ?_, ?_⟩
  · intro r' f' hf' h
    obtain ⟨hr, hf⟩ :=
      Flagged.exact_unique r'.toNat_lt hf' (op.byte a b).toNat_lt hle h hexact
    exact ⟨UInt8.toNat_inj.mp hr, UInt8.toNat_inj.mp hf⟩
  · rintro m x y hx - rfl rfl o
    have ho : o = ((m.setReg x (op.byte (m.reg x) (m.reg y))).setFlag
        (op.flag (m.reg x) (m.reg y))).succeed () := Flagged.execute_instruction m op x y
    rw [ho]
    exact ⟨rfl, flags_setFlag hx _ _⟩

/-- The flag register added to itself keeps the carry of the sum, and less a larger register keeps
that there was a borrow; copied to another register it stays. -/
theorem flags_exact_at_flag :
    let m := ((powerOn (.ofSeed 0)).setReg 0xf 200).setReg 3 201
    (m.execute (.addReg 0xf 0xf)).machine.reg 0xf = 1 ∧
      (m.execute (.subReg 0xf 3)).machine.reg 0xf = 0 ∧
      (m.execute (.subReg 0xf 3)).machine.reg 3 = 201 ∧
      (m.execute (.copy 3 0xf)).machine.reg 0xf = 200 := by
  intro m
  have hflag : m.reg 0xf = 200 := by decide
  have hthree : m.reg 3 = 201 := by decide
  obtain ⟨hops, hplain⟩ := flags_exact
  obtain ⟨r, f, -, hsum, -, hadd⟩ := hops .add 200 200
  obtain ⟨r', f', -, hdifference, -, hsub⟩ := hops .subtract 200 201
  obtain ⟨-, hadd⟩ := hadd m 0xf 0xf (by decide) (by decide) hflag hflag
  obtain ⟨-, hsub⟩ := hsub m 0xf 3 (by decide) (by decide) hflag hthree
  obtain ⟨-, hcopy, -⟩ := (hplain m 3 0xf 0 (by decide) (by decide)).1 (.copy 3 0xf)
    (by simp [Instruction.unflagged])
  have hcarry : f = 1 := by
    have hr := r.toNat_lt
    simp only [Flagged.Exact, UInt8.reduceToNat] at hsum
    exact UInt8.toNat_inj.mp (show f.toNat = 1 by omega)
  have hborrow : f' = 0 := by
    have hr := r'.toNat_lt
    simp only [Flagged.Exact, UInt8.reduceToNat] at hdifference
    exact UInt8.toNat_inj.mp (show f'.toNat = 0 by omega)
  have hkept := hsub.others 3 (by decide) (by decide) (by decide)
  exact ⟨hadd.flag.trans hcarry, hsub.flag.trans hborrow, hkept.trans hthree,
    (hcopy 0xf (by decide) (by decide)).trans hflag⟩

end Machine

end Chip8
