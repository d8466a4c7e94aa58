import Mathlib.Tactic
import Chip8.Machine.Footprint
import Chip8.Machine.History
import Chip8.Proofs.Cycle
import Chip8.Proofs.Decoding
import Chip8.Proofs.Effects

/-! The FOOTPRINT of a cycle.

    A cycle that succeeds has the effect of one instruction, and `effect_eq` has that effect part by
    part. Here each part is brought from the instruction back to the word: a word that fits a
    pattern stands for the instruction of that pattern (`decode_of_fits`), and a word that fits none
    of a list of patterns for an instruction that leaves the part alone (`among_of_decode`). -/

namespace Chip8

open Pattern (among fits table)

theorem Word.toNat_x_lt (w : Word) : w.x.toNat < 16 := by
  rw [toNat_x]
  exact Nat.mod_lt _ (by decide)

theorem Keypad.scanned_eq : scanned = (List.range 15).map .ofNat := by decide

theorem Keypad.firstDown_eq_none_iff (k : Keypad) : k.firstDown = none ↔ k.quiet = true := by
  rw [firstDown, scanned_eq, quiet, List.find?_eq_none]
  simp

namespace Machine

variable {m : Machine} {w : Word} {i : Instruction}

/-! ### Registers -/

/-- A word writes its `VX`, the flag, or the registers up to its `VX`. -/
theorem writes_of_decode (hd : Instruction.decode w = some i) {r : UInt8} (hr : r.toNat < 16)
    (h : i.writes r = true) :
    r = w.x ∧ among Pattern.settingX w = true ∨ r = 0xf ∧ among Pattern.settingFlag w = true ∨
      r.toNat ≤ w.x.toNat ∧ fits "FX65" w = true := by
  have hx := w.toNat_x_lt
  -- a register below sixteen is named by no other byte below sixteen
  have hnx : nibble w.x = nibble r ↔ r = w.x := (nibble_inj hx hr).trans eq_comm
  have hnf : nibble 0xf = nibble r ↔ r = 0xf := (nibble_inj (by decide) hr).trans eq_comm
  have hnr : (nibble r).val = r.toNat := Nat.mod_eq_of_lt hr
  rw [Pattern.among_of_decode hd (by decide), Pattern.among_of_decode hd (by decide),
    Pattern.fits_of_decode hd (by decide : "FX65" ∈ Pattern.strict)]
  obtain ⟨entry, hmem, -, rfl⟩ := Pattern.mem_table_of_decode hd
  fin_cases hmem <;>
    simp_all [Instruction.writes, Instruction.pattern, Pattern.settingX, Pattern.settingFlag]

/-! ### The program counter -/

/-- A word skips the next one as its instruction does. -/
theorem skipTaken_of_decode (m : Machine) (hd : Instruction.decode w = some i) :
    m.skipTaken w = m.skips i := by
  simp (disch := decide) only [skipTaken, Pattern.fits_of_decode hd]
  obtain ⟨entry, hmem, -, rfl⟩ := Pattern.mem_table_of_decode hd
  fin_cases hmem <;> simp [skips, Instruction.pattern]

/-- A word takes the program counter where its instruction does. -/
theorem toNat_pcAfter (hd : Instruction.decode w = some i) (ho : m.fetched.obstacle i = none)
    (hp : m.pc.toNat ≤ 4094) : (m.fetched.pcAfter i).toNat = m.destination w := by
  have hskips : (if m.skips i then m.fetched.pc + 2 else m.fetched.pc).toNat =
      if m.skips i then m.pc.toNat + 4 else m.pc.toNat + 2 := by
    have hpc := toNat_pc_fetched hp
    cases m.skips i
    · exact hpc
    · simp only [if_true, UInt16.toNat_add, hpc, UInt16.reduceToNat]
      omega
  simp (disch := decide) only [destination, skipTaken_of_decode m hd,
    Pattern.fits_of_decode hd, Pattern.among_of_decode hd]
  cases i
  case ret =>
    cases hs : m.stack with
    | nil => simp [obstacle, fetched, hs] at ho
    | cons top rest => simp [pcAfter, fetched, hs, Instruction.pattern]
  case jump addr | call addr =>
    obtain rfl := Pattern.address_of_decode hd rfl
    rfl
  case jumpOffset addr =>
    obtain rfl := Pattern.address_of_decode hd rfl
    have hv := (m.reg 0).toNat_lt
    have ha := Word.toNat_nnn w
    show (w.nnn + (m.reg 0).toUInt16).toNat = w.nnn.toNat + (m.reg 0).toNat
    rw [UInt16.toNat_add, UInt8.toNat_toUInt16]
    omega
  case waitKey x =>
    show (if m.keypad.firstDown = none then m.pc + 2 - 2 else m.fetched.pc).toNat =
      if m.keypad.quiet = true then m.pc.toNat else m.pc.toNat + 2
    rw [UInt16.add_sub_cancel, apply_ite UInt16.toNat, toNat_pc_fetched hp]
    simp only [Keypad.firstDown_eq_none_iff]
  -- every other instruction goes on to the next word, or past it
  all_goals exact hskips

/-! ### The other parts -/

theorem instruction_of_fits (hd : Instruction.decode w = some i)
    {entry : String × (Word → Instruction)} (hmem : entry ∈ table) (hne : entry.1 ≠ "0NNN")
    (hf : fits entry.1 w = true) : i = entry.2 w :=
  Option.some.inj (hd.symm.trans (Pattern.decode_of_fits hmem hne hf))

/-- A word that fits none of the patterns that touch a part leaves the part alone. -/
theorem untouched_of_decode (m : Machine) (hd : Instruction.decode w = some i) :
    (among ["FX33", "FX55"] w = false → m.stores i = []) ∧
      (among ["ANNN", "FX1E", "FX29"] w = false → m.indexAfter i = m.index) ∧
      (among ["00E0", "DXYN"] w = false → m.gridAfter i = m.grid) ∧
      (fits "CXNN" w = false → m.randomAfter i = m.random) := by
  simp (disch := decide) only [Pattern.among_of_decode hd, Pattern.fits_of_decode hd]
  cases i <;> simp [stores, indexAfter, gridAfter, randomAfter, Instruction.pattern]

theorem stack_of_decode (hd : Instruction.decode w = some i) :
    m.fetched.stackAfter i = if fits "2NNN" w then (m.pc + 2) :: m.stack
      else if fits "00EE" w then m.stack.tail else m.stack := by
  simp (disch := decide) only [Pattern.fits_of_decode hd]
  cases i <;> rfl

theorem timers_of_decode (m : Machine) (hd : Instruction.decode w = some i) :
    m.delayAfter i = (if fits "FX15" w then m.reg w.x else m.delayTimer) ∧
      m.soundAfter i = (if fits "FX18" w then m.reg w.x else m.soundTimer) := by
  simp (disch := decide) only [Pattern.fits_of_decode hd]
  obtain ⟨entry, hmem, -, rfl⟩ := Pattern.mem_table_of_decode hd
  fin_cases hmem <;> exact ⟨rfl, rfl⟩

/-! ### The whole -/

/-- A word leaves its footprint where nothing is in the way of its instruction. -/
theorem footprint_effect (hp : m.pc.toNat ≤ 4094) (hd : Instruction.decode w = some i)
    (ho : m.fetched.obstacle i = none) : Footprint m w (m.fetched.effect i).tick := by
  have he := effect_eq m.fetched i
  have hmemory := memory_effect m.fetched i
  obtain ⟨hprogram, hkeypad, hfault⟩ := kept_effect m.fetched i
  obtain ⟨hstores, hindex, hgrid, hrandom⟩ := untouched_of_decode m hd
  obtain ⟨hdelay, hsound⟩ := timers_of_decode m hd
  refine
    { digits := ?digits, dump := ?dump, registers := ?registers, load := ?load, popped := ?popped
      memory := fun h => hmemory.trans (congrArg (m.memory.store m.index.toNat) (hstores h))
      index := fun h => (congrArg index he).trans (hindex h)
      stack := (stack_effect m.fetched i).trans (stack_of_decode hd)
      grid := fun h => (congrArg grid he).trans (hgrid h)
      random := fun h => (congrArg Machine.random he).trans (hrandom h)
      keypad := hkeypad
      program := hprogram
      fault := hfault
      delayTimer := ?delayTimer, soundTimer := ?soundTimer
      pc := (congrArg UInt16.toNat (pc_effect m.fetched i)).trans (toNat_pcAfter hd ho hp) }
  case digits =>
    intro hf
    obtain rfl : i = .storeBcd w.x := instruction_of_fits hd
      (by simp [table] : ("FX33", fun w : Word => Instruction.storeBcd w.x) ∈ table) (by decide) hf
    obtain ⟨hhundreds, htens, hones, hsum⟩ := decimal_digits (m.reg w.x)
    refine ⟨le_of_missing ho, _, _, _, hhundreds, htens, hones, hsum, fun a => ?_⟩
    exact (congrArg (Memory.byteAt · a) hmemory).trans
      (byteAt_store_digits m.memory _ (le_of_missing ho) a)
  case dump =>
    intro hf
    obtain rfl : i = .dumpRegisters w.x := instruction_of_fits hd
      (by simp [table] : ("FX55", fun w : Word => Instruction.dumpRegisters w.x) ∈ table)
      (by decide) hf
    refine ⟨le_of_missing ho, fun a => ?_⟩
    exact (congrArg (Memory.byteAt · a) hmemory).trans
      (byteAt_store_firstRegisters m w.x (le_of_missing ho) a)
  case registers =>
    intro r hr hne
    refine writes_of_decode hd hr ?_
    by_contra hw
    exact hne (reg_effect (m := m.fetched) (by simpa using hw))
  case load =>
    intro hf
    obtain rfl : i = .loadRegisters w.x := instruction_of_fits hd
      (by simp [table] : ("FX65", fun w : Word => Instruction.loadRegisters w.x) ∈ table)
      (by decide) hf
    refine ⟨le_of_missing ho, fun j hj => ?_⟩
    exact reg_effect_loadRegisters (m := m.fetched) hj w.toNat_x_lt
  case popped =>
    intro hf
    obtain rfl : i = .ret := instruction_of_fits hd
      (by simp [table] : ("00EE", fun _ : Word => Instruction.ret) ∈ table) (by decide) hf
    intro hs
    simp [obstacle, fetched, hs] at ho
  case delayTimer =>
    rw [toNat_delayTimer_tick, ← hdelay]
    exact congrArg (·.delayTimer.toNat - 1) he
  case soundTimer =>
    rw [toNat_soundTimer_tick, ← hsound]
    exact congrArg (·.soundTimer.toNat - 1) he

/-- FOOTPRINT: a cycle that succeeds leaves the footprint of the word at the program counter, and
nothing else. A machine that has stopped has no cycle that succeeds. -/
theorem footprint_cycle (m : Machine) (h : m.cycle.result = .ok ()) :
    Footprint m m.nextWord m.cycle.machine := by
  obtain ⟨hp, i, hd, ho, hc⟩ := cycle_of_success h
  rw [hc]
  exact footprint_effect hp hd ho

/-- A word that stores digits over itself is executed as it was when it was fetched. -/
theorem footprint_cycle_over_itself :
    let program : List UInt8 := [0x60, 0xfe, 0xa2, 0x04, 0xf0, 0x33]
    let m := (powerOn (.ofSeed 0)).after [.load program, .cycle, .cycle]
    m.cycle.result = .ok () ∧ m.nextWord = 0xf033 ∧ m.pc = 0x204 ∧ m.index = 0x204 ∧
      (∀ a, m.cycle.machine.memory.byteAt a =
        if a = 0x204 then 2 else if a = 0x205 then 5 else if a = 0x206 then 4
        else m.memory.byteAt a) ∧
      m.cycle.machine.pc.toNat = 0x206 := by
  intro program m
  obtain ⟨hok, hword, hpc, hindex, hreg, hnext⟩ : m.cycle.result = .ok () ∧
      m.nextWord = 0xf033 ∧ m.pc = 0x204 ∧ m.index = 0x204 ∧ m.reg (Word.x 0xf033) = 254 ∧
      m.destination 0xf033 = 0x206 := by decide +kernel
  have hfoot := footprint_cycle m hok
  rw [hword] at hfoot
  obtain ⟨-, hundreds, tens, ones, hhundreds, htens, hones, hsum, hbytes⟩ :=
    hfoot.digits (by decide)
  obtain ⟨rfl, rfl, rfl⟩ : hundreds = 2 ∧ tens = 5 ∧ ones = 4 := by
    rw [hreg] at hsum
    simp only [UInt8.le_iff_toNat_le, ← UInt8.toNat_inj, UInt8.reduceToNat] at *
    omega
  rw [hindex] at hbytes
  exact ⟨hok, hword, hpc, hindex, hbytes, hfoot.pc.trans hnext⟩

end Machine

end Chip8
