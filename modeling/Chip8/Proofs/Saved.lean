import Mathlib.Tactic
import Chip8.Machine.Stores
import Chip8.Proofs.Effects

/-! Registers that are SAVED to memory and loaded again.

    An instruction keeps every byte to which it does not store (`byteAt_execute`), and so do many
    that spare a part of memory, wherever they take the index and the registers meanwhile
    (`byteAt_spared`). So what a dump has stored is there for a load, also for one of fewer
    registers, once the index is back. -/

namespace Chip8.Machine

variable {m : Machine} {i : Instruction} {x y : UInt8} {addr len a : Nat}
  {later : List Instruction}

/-! ### One instruction -/

/-- An instruction that succeeds had nothing in its way. -/
theorem execute_of_success (h : (m.execute i).succeeded) :
    m.obstacle i = none ∧ m.execute i = (m.effect i).succeed () := by
  rcases execute_cases m i with ⟨f, he⟩ | hclear
  · rw [he] at h
    cases h
  · exact hclear

/-- An instruction keeps every byte to which it does not store. -/
theorem byteAt_execute (h : (m.execute i).succeeded) (ha : a ∉ m.targets i) :
    (m.execute i).machine.memory.byteAt a = m.memory.byteAt a := by
  obtain ⟨ho, he⟩ := execute_of_success h
  rw [he]
  show (m.effect i).memory.byteAt a = _
  rw [memory_effect]
  cases i
  case storeBcd x =>
    rw [targets, List.mem_range'_1] at ha
    rw [stores, byteAt_store_digits _ _ (le_of_missing ho), if_neg (by omega), if_neg (by omega),
      if_neg (by omega)]
  case dumpRegisters x =>
    rw [targets, List.mem_range'_1] at ha
    rw [stores, byteAt_store_firstRegisters _ _ (le_of_missing ho), if_neg (by omega)]
  all_goals rfl

/-! ### Many instructions -/

/-- Instructions that spare a part of memory keep it. -/
theorem byteAt_spared (h : m.Spares addr len later) (hle : addr ≤ a) (hlt : a < addr + len) :
    (m.after (later.map .execute)).memory.byteAt a = m.memory.byteAt a := by
  induction later generalizing m with
  | nil => rfl
  | cons i rest ih =>
    obtain ⟨hok, hspared, hrest⟩ := h
    have ha : a ∉ m.targets i := fun hmem => by
      have := hspared a hmem
      omega
    calc (m.after ((i :: rest).map .execute)).memory.byteAt a
      _ = (m.execute i).machine.memory.byteAt a := ih hrest
      _ = m.memory.byteAt a := byteAt_execute hok ha

/-! ### A dump and a load -/

/-- A load leaves alone the registers past the one that it names. -/
theorem reg_effect_past {z : UInt8} (hy : y.toNat < z.toNat) (hz : z.toNat < 16) :
    (m.effect (.loadRegisters y)).reg z = m.reg z := by
  refine reg_effect (decide_eq_false ?_)
  simp only [nibble]
  omega

/-- SAVED: a dump of `V0` to `VX` to bytes that lie in memory succeeds, and after any instructions
that succeed and do not store to these bytes, once the index is back at the first of them, so does a
load of `V0` to `VY`, for every `Y` up to `X`. It gives these registers the values that they had at
the dump, and leaves everything else as it was just before. -/
theorem dump_survives (m : Machine) (x y : UInt8) (later : List Instruction) (hx : x.toNat < 16)
    (hy : y.toNat ≤ x.toNat) (hm : m.index.toNat + x.toNat + 1 ≤ 4096) :
    let dumped := m.execute (.dumpRegisters x)
    let now := dumped.machine.after (later.map .execute)
    let loaded := now.execute (.loadRegisters y)
    dumped.result = .ok () ∧
      (dumped.machine.Spares m.index.toNat (x.toNat + 1) later → now.index = m.index →
        loaded.result = .ok () ∧
          (∀ j ≤ y.toNat, loaded.machine.reg (.ofNat j) = m.reg (.ofNat j)) ∧
          (∀ z : UInt8, y.toNat < z.toNat → z.toNat < 16 → loaded.machine.reg z = now.reg z) ∧
          loaded.machine = { now with registers := loaded.machine.registers }) := by
  intro dumped now loaded
  have hdumped : dumped = (m.stored (m.firstRegisters x)).succeed () :=
    execute_of_clear (missing_of_le hm)
  refine ⟨by rw [hdumped]; rfl, fun hspares hindex => ?_⟩
  have hloaded : loaded = (now.effect (.loadRegisters y)).succeed () := by
    refine execute_of_clear (missing_of_le ?_)
    rw [hindex]
    omega
  have hbyte : ∀ j ≤ x.toNat, now.memory.byteAt (m.index.toNat + j) = m.reg (.ofNat j) := by
    intro j hj
    rw [byteAt_spared hspares (Nat.le_add_right _ _) (by omega), hdumped]
    refine (byteAt_store_firstRegisters m x hm _).trans ?_
    rw [if_pos (by omega), Nat.add_sub_cancel_left]
  rw [hloaded]
  refine ⟨rfl, fun j hj => ?_, fun z => reg_effect_past, rfl⟩
  show (now.effect (.loadRegisters y)).reg (.ofNat j) = _
  rw [reg_effect_loadRegisters hj (by omega), hindex, hbyte j (by omega)]

/-- All sixteen registers are dumped to the last bytes of memory. Two are overwritten, and what is
stored next ends right below the dump. A load of two registers then finds the first of them, and the
third stays overwritten. -/
theorem dump_survives_below_end :
    let m : Machine :=
      { powerOn (.ofSeed 0) with index := 4080, registers := Vector.ofFn fun k => .ofNat (k + 1) }
    let later : List Instruction :=
      [.loadImm 1 99, .loadImm 2 98, .setIndex 4077, .storeBcd 1, .setIndex 4064,
        .dumpRegisters 15, .setIndex 4080]
    let now := (m.execute (.dumpRegisters 15)).machine.after (later.map .execute)
    let loaded := now.execute (.loadRegisters 1)
    now.reg 1 = 99 ∧ loaded.result = .ok () ∧ loaded.machine.reg 0 = 1 ∧
      loaded.machine.reg 1 = 2 ∧ loaded.machine.reg 2 = 98 := by
  intro m later now loaded
  obtain ⟨hone, htwo, hindex⟩ : now.reg 1 = 99 ∧ now.reg 2 = 98 ∧ now.index = 4080 := by
    decide +kernel
  obtain ⟨-, hload⟩ := dump_survives m 15 1 later (by decide) (by decide) (by decide)
  obtain ⟨hok, hback, hkept, -⟩ := hload (by decide +kernel) hindex
  exact ⟨hone, hok, hback 0 (by decide), hback 1 (by decide),
    (hkept 2 (by decide) (by decide)).trans htwo⟩

end Chip8.Machine
