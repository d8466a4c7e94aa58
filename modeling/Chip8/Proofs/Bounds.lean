import Mathlib.Tactic
import Chip8.Machine.History
import Chip8.Proofs.Checked
import Chip8.Proofs.Loading

/-! Where the program counter and the stack can get.

    A machine that executes only what it fetches never has its program counter past `0x10fe`, which
    a jump from `0xfff` by `0xff` reaches, and its return addresses are those of instructions in
    memory. `Bounded` says so; every request keeps it, and so every history does. -/

namespace Chip8.Machine

variable {m : Machine} {i : Instruction}

/-- The bounds of the program counter and of the stack. -/
structure Bounded (m : Machine) : Prop where
  pc_le : m.pc.toNat ≤ 0x10fe
  depth_le : m.stack.length ≤ stackLimit
  return_mem : ∀ a ∈ m.stack, 2 ≤ a.toNat ∧ a.toNat ≤ 0x1000

theorem bounded_powerOn (random : Random) : Bounded (powerOn random) where
  pc_le := by
    show Memory.programStart.toNat ≤ 0x10fe
    decide
  depth_le := Nat.zero_le _
  return_mem a ha := by cases ha

/-- The bounds are about the program counter and the stack alone. -/
theorem Bounded.congr {m' : Machine} (h : Bounded m) (hpc : m'.pc = m.pc)
    (hstack : m'.stack = m.stack) : Bounded m' where
  pc_le := hpc ▸ h.pc_le
  depth_le := hstack ▸ h.depth_le
  return_mem := hstack ▸ h.return_mem

/-! ### One instruction -/

/-- No instruction leaves the program counter past `0x10fe`. -/
theorem pcAfter_le (hb : Bounded m) (hi : i.Narrow) (hlo : 2 ≤ m.pc.toNat)
    (hhi : m.pc.toNat ≤ 0x1000) : (m.pcAfter i).toNat ≤ 0x10fe := by
  have hskip : (m.pc + 2).toNat = m.pc.toNat + 2 := by
    simp only [UInt16.toNat_add, UInt16.reduceToNat]
    omega
  have hback : (m.pc - 2).toNat ≤ m.pc.toNat := by
    rw [UInt16.toNat_sub_of_le _ _ hlo]
    exact Nat.sub_le _ _
  have haddr := hi.address_lt
  cases i <;> simp only [pcAfter, Instruction.address?, Option.mem_some_iff, forall_eq'] at haddr ⊢
  case ret =>
    cases hs : m.stack with
    | nil => exact hb.pc_le
    | cons top rest =>
      have := (hb.return_mem top (by simp [hs])).2
      exact Nat.le_trans this (by decide)
  case jump addr => omega
  case call addr => omega
  case jumpOffset addr =>
    have hv := (m.reg 0).toNat_lt
    rw [UInt16.toNat_add, UInt8.toNat_toUInt16]
    omega
  all_goals split <;> omega

/-- An instruction that nothing is in the way of finds room for its return address. -/
theorem depth_effect (hd : m.stack.length ≤ stackLimit) (ho : m.obstacle i = none) :
    (m.effect i).stack.length ≤ stackLimit := by
  rw [stack_effect]
  cases i <;> simp only [stackAfter]
  case ret => exact Nat.le_trans (by simp) hd
  -- a call goes through only if the stack was not full
  case call addr =>
    have hne : m.stack.length ≠ stackLimit := by
      intro hs
      simp [obstacle, hs] at ho
    rw [List.length_cons]
    omega
  all_goals exact hd

/-- What an instruction leaves is bounded if nothing was in its way. -/
theorem bounded_effect (hb : Bounded m) (hi : i.Narrow) (ho : m.obstacle i = none)
    (hlo : 2 ≤ m.pc.toNat) (hhi : m.pc.toNat ≤ 0x1000) : Bounded (m.effect i) where
  pc_le := by
    rw [pc_effect]
    exact pcAfter_le hb hi hlo hhi
  depth_le := depth_effect hb.depth_le ho
  return_mem := by
    rw [stack_effect]
    have hr := hb.return_mem
    cases i <;> simp only [stackAfter]
    case ret => exact fun a ha => hr a (List.mem_of_mem_tail ha)
    case call addr => exact List.forall_mem_cons.mpr ⟨⟨hlo, hhi⟩, hr⟩
    all_goals exact hr

/-! ### Every request -/

theorem bounded_fetched (hb : Bounded m) (h : m.pc.toNat ≤ 4094) : Bounded m.fetched where
  pc_le := by
    rw [toNat_pc_fetched h]
    omega
  depth_le := hb.depth_le
  return_mem := hb.return_mem

theorem bounded_fetch (hb : Bounded m) : Bounded m.fetch.machine := by
  rcases fetch_cases m with ⟨f, hf⟩ | ⟨w, hw, hf⟩ <;> rw [hf]
  · exact hb
  · exact bounded_fetched hb (le_of_word hw)

theorem bounded_cycle (hb : Bounded m) : Bounded m.cycle.machine := by
  rcases machine_cycle_cases m with ⟨f, hc⟩ | ⟨hp, i, hd, ho, hc⟩ <;> rw [hc]
  · exact hb.congr rfl rfl
  · have hpc := toNat_pc_fetched hp
    have he := bounded_effect (bounded_fetched hb hp) (Pattern.narrow_of_decode hd) ho
      (by omega) (by omega)
    exact he.congr rfl rfl

theorem bounded_load (hb : Bounded m) (program : List UInt8) :
    Bounded (m.load program).machine := by
  rcases load_cases m program with ⟨f, hl⟩ | ⟨-, hl⟩
  · rw [hl]
    exact hb
  · rw [hl]
    exact hb.congr rfl rfl

theorem bounded_loadFrom (hb : Bounded m) (source : ByteSource) :
    Bounded (m.loadFrom source).machine := by
  rcases loadFrom_cases m source with ⟨e, hl⟩ | ⟨program, -, -, hl⟩
  · rw [hl]
    exact hb
  · rw [hl]
    exact bounded_load hb program

theorem bounded_reset (hb : Bounded m) : Bounded m.reset.machine := by
  rw [reset_eq]
  split
  · exact hb.congr (by simp [fail]) (by simp [fail])
  · exact (bounded_powerOn m.random).congr (by simp) (by simp)

/-- Every request keeps the bounds, but for one to execute what was not fetched. -/
theorem bounded_handle (hb : Bounded m) {r : Request} (h : r.executes = false) :
    Bounded (m.handle r).machine := by
  cases r with
  | load program => exact bounded_load hb program
  | loadFrom source => exact bounded_loadFrom hb source
  | reset => exact bounded_reset hb
  | fetch => exact bounded_fetch hb
  | execute i => cases h
  | executeWord w => cases h
  | cycle => exact bounded_cycle hb
  | run n => exact run_induction (fun _ => bounded_cycle) n hb
  | keys e => exact hb.congr rfl rfl

theorem bounded_after (hb : Bounded m) {history : List Request}
    (h : ∀ r ∈ history, r.executes = false) : Bounded (m.after history) := by
  induction history generalizing m with
  | nil => exact hb
  | cons r rest ih =>
    obtain ⟨hr, hrest⟩ := List.forall_mem_cons.mp h
    exact ih (bounded_handle hb hr) hrest

/-- SAFE: after any history in which only fetched instructions were executed, the program counter
and the stack are in their bounds, and no check of the next cycle fails. -/
theorem safe_after (random : Random) (history : List Request)
    (h : ∀ r ∈ history, r.executes = false) :
    let m := (powerOn random).after history
    m.pc.toNat ≤ 0x10fe ∧ m.stack.length ≤ 16 ∧
      (∀ a ∈ m.stack, 2 ≤ a.toNat ∧ a.toNat ≤ 0x1000) ∧ m.cycle? = some m.cycle := by
  intro m
  obtain ⟨hpc, hdepth, hreturn⟩ : Bounded m := bounded_after (bounded_powerOn random) h
  exact ⟨hpc, hdepth, hreturn, cycle?_eq m⟩

/-- The bound of the program counter is reached, by a jump from `0xfff` by `0xff`. -/
theorem safe_after_far_jump :
    let history : List Request := [.load [0x60, 0xff, 0xbf, 0xff], .cycle, .cycle]
    let m := (powerOn (.ofSeed 0)).after history
    (∀ r ∈ history, r.executes = false) ∧ m.pc = 0x10fe ∧ m.pc.toNat ≤ 0x10fe ∧
      m.stack.length ≤ 16 ∧ (∀ a ∈ m.stack, 2 ≤ a.toNat ∧ a.toNat ≤ 0x1000) ∧
      m.cycle? = some m.cycle := by
  intro history m
  have h : ∀ r ∈ history, r.executes = false := by decide
  have hpc : m.pc = 0x10fe := by decide +kernel
  exact ⟨h, hpc, safe_after (.ofSeed 0) history h⟩

end Chip8.Machine
