import Mathlib.Tactic
import Chip8.Machine.Stores
import Chip8.Proofs.Draws
import Chip8.Proofs.Footprint
import Chip8.Proofs.Loading
import Chip8.Proofs.Memory

/-! The font stays as it was but where a program STORED over it.

    Nothing protects the font: a store is held to memory as a whole, and a program that stores to
    a glyph has the digit drawn as it stored it (`font_overwritten`). But nothing else changes the
    font either. The footprint of a word has the addresses that it stores to (`byteAt_cycle`),
    programs are loaded above the font, and a reset sets memory up anew; so by induction every byte
    below the programs is still its power-on byte, but for the addresses to which was stored since
    the last reset (`intact_after`). Of a glyph that nothing was stored to, the rows are read back
    and drawn. -/

namespace Chip8

open Pattern (fits table)

namespace Machine

variable {m : Machine} {w : Word} {a n : Nat} {digit : UInt8}

/-! ### What is stored to -/

/-- A cycle keeps every byte to which it does not store. -/
theorem byteAt_cycle (h : a ∉ m.cycleStores) :
    m.cycle.machine.memory.byteAt a = m.memory.byteAt a := by
  rw [cycleStores] at h
  rcases result_cases m.cycle with ⟨hr, hok⟩ | ⟨f, hr, -⟩
  · have hfoot : Footprint m m.nextWord m.cycle.machine := by
      obtain ⟨hp, i, hd, ho, hc⟩ := cycle_of_success hr
      rw [hc]
      exact footprint_effect hp hd ho
    rw [if_pos hok] at h
    by_cases h33 : fits "FX33" m.nextWord = true
    · rw [if_pos h33, List.mem_range'_1] at h
      obtain ⟨-, hundreds, tens, ones, -, -, -, -, hbytes⟩ := hfoot.digits h33
      rw [hbytes, if_neg (by omega), if_neg (by omega), if_neg (by omega)]
    · rw [if_neg h33] at h
      by_cases h55 : fits "FX55" m.nextWord = true
      · rw [if_pos h55, List.mem_range'_1] at h
        rw [(hfoot.dump h55).2, if_neg (by omega)]
      · rw [hfoot.memory (by simp [Pattern.among, h33, h55])]
  · rw [cycle_of_failure hr]

/-- A run of cycles keeps every byte to which none of them stores. -/
theorem byteAt_run (h : a ∉ m.runStores n) :
    (m.run n).machine.memory.byteAt a = m.memory.byteAt a := by
  induction n generalizing m with
  | zero => rfl
  | succ n ih =>
    rw [runStores, List.mem_append, not_or] at h
    have hfirst := byteAt_cycle h.1
    rw [run]
    rcases result_cases m.cycle with ⟨hr, hok⟩ | ⟨f, hr, -⟩
    · rw [if_pos hok] at h
      rw [Outcome.andThen_of_ok hr]
      exact (ih h.2).trans hfirst
    · rw [Outcome.andThen_of_error hr]
      exact hfirst

/-- A program that is written where programs go leaves what lies below. -/
theorem byteAt_store_program (memory : Memory) {program : List UInt8}
    (hfits : program.length ≤ 3584) (h : a < 512) :
    (memory.store Memory.programStart.toNat program).byteAt a = memory.byteAt a := by
  have hs : Memory.programStart.toNat = 512 := rfl
  rw [hs, Memory.byteAt_store _ _ _ (by rw [Memory.size]; omega), if_neg (by omega)]

theorem byteAt_load (m : Machine) (program : List UInt8) (h : a < 512) :
    (m.load program).machine.memory.byteAt a = m.memory.byteAt a := by
  rcases load_cases m program with ⟨f, hl⟩ | ⟨hfits, hl⟩ <;> rw [hl]
  · rfl
  · exact byteAt_store_program m.memory hfits h

theorem byteAt_loadFrom (m : Machine) (source : ByteSource) (h : a < 512) :
    (m.loadFrom source).machine.memory.byteAt a = m.memory.byteAt a := by
  rcases loadFrom_cases m source with ⟨e, hl⟩ | ⟨program, -, -, hl⟩ <;> rw [hl]
  · rfl
  · exact byteAt_load m program h

/-- A request that drives a machine keeps every byte below the programs to which it does not
store. -/
theorem byteAt_handle {r : Request} (hr : r.drives = true) (h : a < 512)
    (hstores : a ∉ m.requestStores r) :
    (m.handle r).machine.memory.byteAt a = m.memory.byteAt a := by
  cases r with
  | load program => exact byteAt_load m program h
  | loadFrom source => exact byteAt_loadFrom m source h
  | cycle => exact byteAt_cycle hstores
  | run n => exact byteAt_run hstores
  | keys e => rfl
  | reset | fetch | execute | executeWord => cases hr

/-- A reset gives back every byte below the programs, whether or not the program fits. -/
theorem byteAt_reset (m : Machine) (h : a < 512) :
    m.reset.machine.memory.byteAt a = Memory.powerOnByte a := by
  rw [← Memory.byteAt_powerOn, reset_eq, Memory.loadProgram, Memory.write, inRange_programStart]
  by_cases hfits : m.program.length ≤ 3584
  · simpa [hfits] using byteAt_store_program Memory.powerOn hfits h
  · simp [hfits, fail]

/-! ### The bytes below the programs -/

/-- Below the programs memory is as at power-on, but for some addresses. -/
def Intact (m : Machine) (stored : List Nat) : Prop :=
  ∀ a < 512, a ∉ stored → m.memory.byteAt a = Memory.powerOnByte a

theorem intact_handle {stored : List Nat} {r : Request} (hr : r.drives = true ∨ r = .reset)
    (h : Intact m stored) :
    Intact (m.handle r).machine (if r = .reset then [] else stored ++ m.requestStores r) := by
  intro a ha hstored
  by_cases hreset : r = .reset
  · subst hreset
    exact byteAt_reset m ha
  · rw [if_neg hreset, List.mem_append, not_or] at hstored
    rw [byteAt_handle (hr.resolve_right hreset) ha hstored.2]
    exact h a ha hstored.1

theorem intact_after {stored : List Nat} {history : List Request}
    (hrequests : ∀ r ∈ history, r.drives = true ∨ r = .reset) (h : Intact m stored) :
    Intact (m.after history) (m.storedSince stored history) := by
  induction history generalizing m stored with
  | nil => exact h
  | cons r rest ih =>
    have hfirst := intact_handle (hrequests r (List.mem_cons_self ..)) h
    exact ih (fun r' hr' => hrequests r' (List.mem_cons_of_mem r hr')) hfirst

theorem intact_powerOn (random : Random) : Intact (powerOn random) [] :=
  fun a _ _ => Memory.byteAt_powerOn a

/-! ### Drawing a glyph -/

theorem toNat_glyphAddr (digit : UInt8) :
    (Memory.glyphAddr digit).toNat = 0x50 + 5 * digit.toNat := by
  have hdigit := digit.toNat_lt
  simp only [Memory.glyphAddr, Memory.fontStart, Memory.glyphRows, UInt16.toNat_add,
    UInt16.toNat_mul, UInt8.toNat_toUInt16, UInt16.reduceToNat]
  omega

/-- A draw of five rows draws the five bytes from the index on. -/
theorem drawsRows_slice (hm : m.fault = none) (hw : m.memory.word m.pc = .ok w)
    (hf : fits "DXYN" w = true) (hn : w.n = 5) (hi : m.index.toNat + 5 ≤ 4096) :
    m.DrawsRows w (m.memory.slice m.index.toNat 5) := by
  have hd : Instruction.decode w = some (.draw w.x w.y w.n) := Pattern.decode_of_fits
    (by simp [table] : ("DXYN", fun w : Word => Instruction.draw w.x w.y w.n) ∈ table)
    (by decide) hf
  have ho : m.fetched.obstacle (.draw w.x w.y w.n) = none := by
    have hr : Memory.inRange m.fetched.index 5 = true := decide_eq_true hi
    rw [hn]
    exact if_pos hr
  have hc := cycle_of_clear hm hw hd ho
  rw [hn] at hc
  refine ⟨by rw [hc], by rw [hc]; rfl, ?_⟩
  rw [hc]
  exact (reg_setFlag _ _ 0xf).trans (if_pos rfl)

/-- The rows of a glyph to which nothing was stored are read back. -/
theorem slice_glyph {stored : List Nat} (h : Intact m stored) (hdigit : digit.toNat < 16)
    (hglyph : ∀ k < 5, 0x50 + 5 * digit.toNat + k ∉ stored) :
    m.memory.slice (Memory.glyphAddr digit).toNat 5 = Memory.glyph digit := by
  have hlength : Memory.font.length = 80 := rfl
  refine List.ext_getElem? fun k => ?_
  rw [Memory.getElem?_slice, Memory.glyph, toNat_glyphAddr, List.getElem?_take]
  by_cases hk : k < 5
  · have hbyte := h (0x50 + 5 * digit.toNat + k) (by omega) (hglyph k hk)
    rw [if_pos hk, if_pos hk, hbyte, Memory.powerOnByte, if_pos (by omega), List.getElem?_drop,
      show 0x50 + 5 * digit.toNat + k - 0x50 = 5 * digit.toNat + k by omega,
      List.getElem?_eq_getElem (by omega), Option.getD_some]
  · rw [if_neg hk, if_neg hk]

theorem drawsGlyph_of_intact {stored : List Nat} (h : Intact m stored) (hdigit : digit.toNat < 16)
    (hglyph : ∀ k < 5, 0x50 + 5 * digit.toNat + k ∉ stored) : m.DrawsGlyph digit := by
  have hslice := slice_glyph h hdigit hglyph
  have hroom : (Memory.glyphAddr digit).toNat + 5 ≤ 4096 := by
    rw [toNat_glyphAddr]
    omega
  refine ⟨fun w hm hw hf hn hi => ?_, fun w w' hm hw hf hx hw' hf' hn => ?_⟩
  · rw [← hslice, ← hi]
    exact drawsRows_slice hm hw hf hn (hi ▸ hroom)
  · have hd : Instruction.decode w = some (.loadFontAddr w.x) := Pattern.decode_of_fits
      (by simp [table] : ("FX29", fun w : Word => Instruction.loadFontAddr w.x) ∈ table)
      (by decide) hf
    have hc := cycle_of_clear hm hw hd rfl
    have hi : m.cycle.machine.index = Memory.glyphAddr digit := by
      rw [hc, ← hx]
      rfl
    refine ⟨by rw [hc], by rw [hc]; rfl, hi, ?_⟩
    have hmemory : m.cycle.machine.memory = m.memory := by
      rw [hc]
      rfl
    have hnext : m.cycle.machine.memory.word m.cycle.machine.pc = .ok w' := by
      rw [hmemory, hc]
      exact hw'
    have hrows := drawsRows_slice (by rw [hc]; exact hm) hnext hf' hn (hi ▸ hroom)
    rwa [hi, hmemory, hslice] at hrows

/-! ### The font -/

/-- INTACT BUT WHERE STORED TO: after any loads, cycles, resets and changes to the keypad, every
byte of the font is in its place but for those to which was stored since the last reset; and of
every digit whose glyph was not stored to, the glyph is drawn. -/
theorem font_after (random : Random) (history : List Request)
    (h : ∀ r ∈ history, r.drives = true ∨ r = .reset) :
    let m := (powerOn random).after history
    let stored := (powerOn random).storedSince [] history
    (∀ k < 80, 0x50 + k ∉ stored → some (m.memory.byteAt (0x50 + k)) = Memory.font[k]?) ∧
      ∀ digit : UInt8, digit.toNat < 16 → (∀ k < 5, 0x50 + 5 * digit.toNat + k ∉ stored) →
        m.DrawsGlyph digit := by
  intro m stored
  have hintact : Intact m stored := intact_after h (intact_powerOn random)
  refine ⟨fun k hk hstored => ?_, fun digit => drawsGlyph_of_intact hintact⟩
  have hlength : Memory.font.length = 80 := rfl
  rw [hintact (0x50 + k) (by omega) hstored, Memory.powerOnByte, if_pos (by omega),
    Nat.add_sub_cancel_left, List.getElem?_eq_getElem (by omega), Option.getD_some]

/-- A program has stored over the first row of `0`, and now draws `1`. -/
theorem font_after_dump :
    let program : List UInt8 := [0xa0, 0x50, 0xf0, 0x55, 0x60, 0x01, 0xf0, 0x29, 0xd1, 0x15]
    let history : List Request := [.load program, .cycle, .cycle, .cycle]
    let m := (powerOn (.ofSeed 0)).after history
    (powerOn (.ofSeed 0)).storedSince [] history = [0x50] ∧ m.memory.byteAt 0x50 = 0 ∧
      (∀ k < 80, k ≠ 0 → some (m.memory.byteAt (0x50 + k)) = Memory.font[k]?) ∧
      m.DrawsGlyph 1 ∧ m.cycle.machine.DrawsRows 0xd115 [0x20, 0x60, 0x20, 0x20, 0x70] := by
  intro program history m
  have hdrives : ∀ r ∈ history, r.drives = true ∨ r = .reset := by decide
  obtain ⟨hstored, hfirst, hm, hw, hx, hw'⟩ :
      (powerOn (.ofSeed 0)).storedSince [] history = [0x50] ∧ m.memory.byteAt 0x50 = 0 ∧
        m.fault = none ∧ m.memory.word m.pc = .ok 0xf029 ∧ m.reg (Word.x 0xf029) = 1 ∧
        m.memory.word (m.pc + 2) = .ok 0xd115 := by decide +kernel
  obtain ⟨hfont, hglyph⟩ := font_after (.ofSeed 0) history hdrives
  have hone : m.DrawsGlyph 1 := by
    refine hglyph 1 (by decide) fun k hk => ?_
    simp only [hstored, List.mem_singleton, UInt8.reduceToNat]
    omega
  refine ⟨hstored, hfirst, fun k hk hne => hfont k hk ?_, hone, ?_⟩
  · rw [hstored, List.mem_singleton]
    omega
  · exact (hone.pointed _ _ hm hw (by decide) hx hw' (by decide) (by decide)).2.2.2

/-- NOT FOR GOOD: a program that dumps a register over the first row of `0` has a `0` drawn
without it. -/
theorem font_overwritten :
    let program : List UInt8 := [0xa0, 0x50, 0xf0, 0x55, 0xf0, 0x29, 0xd0, 0x05]
    let history : List Request := [.load program, .run 2]
    let m := (powerOn (.ofSeed 0)).after history
    (∀ r ∈ history, r.drives = true ∨ r = .reset) ∧
      ¬ (∀ k < 80, some (m.memory.byteAt (0x50 + k)) = Memory.font[k]?) ∧ ¬ m.DrawsGlyph 0 := by
  intro program history m
  obtain ⟨hfirst, hm, hw, hx, hw', hdark, hlit⟩ : m.memory.byteAt 0x50 = 0 ∧ m.fault = none ∧
      m.memory.word m.pc = .ok 0xf029 ∧ m.reg (Word.x 0xf029) = 0 ∧
      m.memory.word (m.pc + 2) = .ok 0xd005 ∧
      m.cycle.machine.cycle.machine.grid.isLit 0 0 = false ∧
      (m.cycle.machine.grid.draw (Memory.glyph 0) (m.cycle.machine.reg (Word.x 0xd005))
        (m.cycle.machine.reg (Word.y 0xd005))).1.isLit 0 0 = true := by decide +kernel
  refine ⟨by decide, fun hfont => ?_, fun hglyph => ?_⟩
  · have hzero := hfont 0 (by decide)
    rw [Nat.add_zero, hfirst] at hzero
    exact absurd hzero (by decide)
  · have hrows := (hglyph.pointed _ _ hm hw (by decide) hx hw' (by decide) (by decide)).2.2.2
    rw [hrows.2.1, hlit] at hdark
    cases hdark

end Machine

end Chip8
