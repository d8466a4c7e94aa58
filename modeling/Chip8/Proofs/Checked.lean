import Mathlib.Tactic
import Chip8.Machine.Checked
import Chip8.Proofs.Cycle
import Chip8.Proofs.Decoding
import Chip8.Proofs.Memory

/-! The checks of a cycle never fail.

    Each checked operation is `some` of the total one where its operands are narrow and its sums are
    small. Decoding makes the operands narrow and a fetch that succeeds makes the sums small; and the
    lengths that a cycle asks for are such as every host can hold. So `cycle?_eq` holds of every
    machine, with no hypothesis. -/

namespace Chip8

/-! ### Numbers -/

namespace Host

theorem sum?_of_lt {a b : UInt16} (h : a.toNat + b.toNat < 65536) : sum? a b = some (a + b) :=
  if_pos h

/-- From an address in memory, or from the end of it, one can always move on by an instruction. -/
theorem sum?_two {pc : UInt16} (h : pc.toNat ≤ 4096) : sum? pc 2 = some (pc + 2) := by
  refine sum?_of_lt ?_
  simp only [UInt16.reduceToNat]
  omega

theorem difference?_of_le {a b : UInt16} (h : b.toNat ≤ a.toNat) :
    difference? a b = some (a - b) :=
  if_pos h

theorem product?_of_lt {a b : UInt16} (h : a.toNat * b.toNat < 65536) :
    product? a b = some (a * b) :=
  if_pos h

theorem countDown?_eq (b : UInt8) : countDown? b = some (if b > 0 then b - 1 else b) := by
  by_cases hb : b > 0
  · have hpos : 0 < b.toNat := hb
    simp only [countDown?, if_pos hb, before?, if_pos hpos]
  · simp only [countDown?, if_neg hb]

end Host

/-! ### Loops

Where no turn of a loop fails, the loop does not. -/

namespace Host

section Loops

variable {α σ : Type} {l : List α}

theorem findM?_some {test? : α → Option Bool} {test : α → Bool}
    (h : ∀ a ∈ l, test? a = some (test a)) : l.findM? test? = some (l.find? test) := by
  induction l with
  | nil => rfl
  | cons a rest ih =>
    rw [List.findM?, List.find?, h a (List.mem_cons_self ..)]
    cases test a with
    | true => rfl
    | false => exact ih fun b hb => h b (List.mem_cons_of_mem _ hb)

theorem foldlM_some {f? : σ → α → Option σ} {f : σ → α → σ}
    (h : ∀ a ∈ l, ∀ s, f? s a = some (f s a)) (s : σ) : l.foldlM f? s = some (l.foldl f s) := by
  induction l generalizing s with
  | nil => rfl
  | cons a rest ih =>
    rw [List.foldlM_cons, h a (List.mem_cons_self ..)]
    exact ih (fun b hb => h b (List.mem_cons_of_mem _ hb)) (f s a)

end Loops

/-- Inside its bounds a sequence is set as it is without a check. -/
theorem setIfInBounds_of_lt {α : Type} {n k : Nat} (values : Vector α n) (h : k < n) (value : α) :
    values.setIfInBounds k value = values.set k value h := by
  ext j hj
  simp [Vector.getElem_setIfInBounds, Vector.getElem_set]

end Host

/-! ### Sequences -/

namespace Bank

variable {α : Type} {b : UInt8}

theorem read?_of_lt (bank : Bank α) (h : b.toNat < 16) : bank.read? b = some (bank.entry b) := by
  have hb : (nibble b : Nat) = b.toNat := Nat.mod_eq_of_lt h
  simp [read?, entry, hb, h]

theorem write?_of_lt (bank : Bank α) (h : b.toNat < 16) (value : α) :
    bank.write? b value = some (bank.setEntry b value) := by
  have hb : (nibble b : Nat) = b.toNat := Nat.mod_eq_of_lt h
  rw [write?, if_pos h, Host.setIfInBounds_of_lt bank h]
  simp [setEntry, hb]

end Bank

namespace Keypad

theorem isDown?_eq (k : Keypad) (key : UInt8) : k.isDown? key = some (k.isDown key) := by
  have hn : (key &&& 0xf).toNat = key.toNat % 16 := by
    rw [UInt8.toNat_and]
    exact Nat.and_two_pow_sub_one_eq_mod key.toNat 4
  have he : nibble (key &&& 0xf) = nibble key := Fin.ext (by simp [nibble, hn])
  rw [isDown?, Bank.read?_of_lt _ (by omega)]
  exact congrArg (fun n => some k.down[n]) he

theorem firstDown?_eq (k : Keypad) : k.firstDown? = some k.firstDown := by
  refine Host.findM?_some fun key hkey => ?_
  have hlt : key.toNat < 16 := by
    fin_cases hkey <;> decide
  exact Bank.read?_of_lt k.down hlt

end Keypad

namespace Memory

theorem glyphAddr?_eq (digit : UInt8) : glyphAddr? digit = some (glyphAddr digit) := by
  have hd := digit.toNat_lt
  have hp : digit.toUInt16.toNat * glyphRows.toNat < 65536 := by
    simp only [UInt8.toNat_toUInt16, glyphRows, UInt16.reduceToNat]
    omega
  have hs : fontStart.toNat + (digit.toUInt16 * glyphRows).toNat < 65536 := by
    rw [UInt16.toNat_mul, Nat.mod_eq_of_lt hp]
    simp only [UInt8.toNat_toUInt16, glyphRows, fontStart, UInt16.reduceToNat]
    omega
  simp [glyphAddr?, Host.product?_of_lt hp, Host.sum?_of_lt hs, glyphAddr]

end Memory

namespace Grid

theorem toggleAt?_eq (drawn : Grid × Bool) (x y : Nat) :
    toggleAt? drawn x y = some (toggle drawn (cellAt x y)) := by
  have hi : y % height * width + x % width < 2048 := (cellAt x y).isLt
  have hc : drawn.1.cells[y % height * width + x % width]? = some (drawn.1.lit (cellAt x y)) :=
    Vector.getElem?_eq_getElem hi
  have hf : (⟨drawn.1.cells.setIfInBounds (y % height * width + x % width)
      (!drawn.1.lit (cellAt x y))⟩ : Grid) = drawn.1.flip (cellAt x y) :=
    congrArg Grid.mk (Host.setIfInBounds_of_lt _ hi _)
  rw [toggleAt?, Host.size?_of_lt (by omega)]
  simp [hc, hf, toggle]

theorem drawRow?_eq (bits : UInt8) {x : Nat} (y : Nat) (hx : x < 256) (drawn : Grid × Bool) :
    drawRow? bits x y drawn
      = some (((rowColumns bits).map fun column => cellAt (x + column) y).foldl toggle drawn) := by
  rw [List.foldl_map]
  refine Host.foldlM_some (fun column hcolumn drawn => ?_) drawn
  have hlt : column < 8 := List.mem_range.mp (List.mem_of_mem_filter hcolumn)
  simp [hlt, Host.size?_of_lt (n := x + column) (by omega), toggleAt?_eq]

theorem drawRows?_eq (sprite : List UInt8) {x y : Nat} (hx : x < 256)
    (hy : y + sprite.length < 4294967296) (drawn : Grid × Bool) :
    drawRows? sprite x y drawn = some ((spriteCells sprite x y).foldl toggle drawn) := by
  induction sprite generalizing y drawn with
  | nil => rfl
  | cons bits rest ih =>
    rw [List.length_cons] at hy
    rw [drawRows?, Host.size?_of_lt (by omega), Option.bind_eq_bind, Option.bind_some,
      drawRow?_eq bits y hx, Option.bind_eq_bind, Option.bind_some, ih (by omega), spriteCells,
      List.foldl_append]

/-- The cells of a sprite depend on where its corner is on the torus. -/
theorem spriteCells_congr (sprite : List UInt8) {x x' y y' : Nat}
    (hx : x % width = x' % width) (hy : y % height = y' % height) :
    spriteCells sprite x y = spriteCells sprite x' y' := by
  induction sprite generalizing y y' with
  | nil => rfl
  | cons bits rest ih =>
    have hrow : ∀ column, cellAt (x + column) y = cellAt (x' + column) y' := by
      intro column
      rw [← cellAt_mod, Nat.add_mod, hx, hy, ← Nat.add_mod, cellAt_mod]
    have hnext : (y + 1) % height = (y' + 1) % height := by rw [Nat.add_mod, hy, ← Nat.add_mod]
    rw [spriteCells, spriteCells, ih hnext]
    simp [hrow]

theorem draw?_eq (g : Grid) {sprite : List UInt8} (h : sprite.length ≤ 256) (x y : UInt8) :
    g.draw? sprite x y = some (g.draw sprite x y) := by
  have hx : x.toNat % width < 256 := by simp only [width]; omega
  have hy : y.toNat % height + sprite.length < 4294967296 := by simp only [height]; omega
  rw [draw?, drawRows?_eq sprite hx hy, draw,
    spriteCells_congr sprite (Nat.mod_mod _ _) (Nat.mod_mod _ _)]

end Grid

/-! ### Instructions -/

namespace Machine

variable {m : Machine} {x y : UInt8} {i : Instruction}

theorem reg?_of_lt (m : Machine) (h : x.toNat < 16) : m.reg? x = some (m.reg x) :=
  Bank.read?_of_lt m.registers h

theorem setReg?_of_lt (m : Machine) (h : x.toNat < 16) (value : UInt8) :
    m.setReg? x value = some (m.setReg x value) := by
  simp [setReg?, Bank.write?_of_lt m.registers h, setReg]

theorem setFlag?_eq (m : Machine) (flag : Bool) : m.setFlag? flag = some (m.setFlag flag) :=
  setReg?_of_lt m (by decide) _

theorem skipIf?_of_le (h : m.pc.toNat ≤ 4096) (condition : Bool) :
    m.skipIf? condition = some (m.skipIf condition) := by
  simp only [skipIf?, skipIf, Host.sum?_two h]
  cases condition <;> rfl

theorem firstRegisters?_of_lt (m : Machine) (h : x.toNat < 16) :
    m.firstRegisters? (x.toNat + 1) = some (m.firstRegisters x) := by
  rw [firstRegisters?, if_pos (by omega), firstRegisters_of_lt m h]

/-- Every host can hold where a short range ends. -/
theorem holds_of_le (m : Machine) {len : Nat} (h : len ≤ 256) :
    Host.least.holds (m.index.toNat + len) = true := by
  have hindex := m.index.toNat_lt
  exact Host.holds_of_lt (by omega)

theorem storeAtIndex?_eq (m : Machine) (data : List UInt8) (h : data.length ≤ 256) :
    (m.storeAtIndex? data.length fun _ => some data) = some (m.storeAtIndex data) := by
  rw [storeAtIndex?, bytes, Bytes.write?_memory, if_pos (m.holds_of_le h), storeAtIndex]
  cases m.memory.write m.index data with
  | error f => simp [Bytes.ofChange, Bytes.ofBytes_toList, fail]
  | ok memory => simp [Bytes.ofChange, Bytes.ofBytes_toList, succeed]

theorem drawAtIndex?_of_lt (m : Machine) (hx : x.toNat < 16) (hy : y.toNat < 16) (rows : UInt8) :
    m.drawAtIndex? x y rows = some (m.drawRows x y rows) := by
  have hrows : rows.toNat ≤ 256 := Nat.le_of_lt rows.toNat_lt
  rw [drawAtIndex?, bytes, Bytes.read?_memory, if_pos (m.holds_of_le hrows), drawRows, Memory.read]
  split
  · have hlen : (m.memory.slice m.index.toNat rows.toNat).length ≤ 256 := by simpa using hrows
    simp [reg?_of_lt m hx, reg?_of_lt m hy, Grid.draw?_eq m.grid hlen, setFlag?_eq]
  · rfl

theorem loadFromIndex?_of_lt (m : Machine) (h : x.toNat < 16) :
    m.loadFromIndex? (x.toNat + 1) = some (m.execute (.loadRegisters x)) := by
  rw [loadFromIndex?, bytes, Bytes.read?_memory, if_pos (m.holds_of_le (by omega)), execute,
    Memory.read]
  split
  · simp [setFirstRegisters?, h]
  · rfl

/-- An instruction with narrow operands passes every check, if the program counter is past an
instruction in memory. -/
theorem execute?_of_narrow (hi : i.Narrow) (hlo : 2 ≤ m.pc.toNat) (hhi : m.pc.toNat ≤ 4096) :
    m.execute? i = some (m.execute i) := by
  have hhere : Host.difference? m.pc 2 = some (m.pc - 2) := Host.difference?_of_le hlo
  have hcount {x : UInt8} (hx : x.toNat < 16) :
      Host.least.size? (x.toNat + 1) = some (x.toNat + 1) := Host.size?_of_lt (by omega)
  obtain ⟨hreg, haddr⟩ := hi
  rw [execute?, hhere]
  -- narrow registers are indices; the cases below add a sum, a length or a choice of their own
  cases i <;> simp [Instruction.registers, Instruction.address?] at hreg haddr
  case ret => cases hs : m.stack <;> simp [execute, hs]
  case call addr =>
    by_cases hs : m.stack.length = stackLimit <;> simp [execute, hs]
  case jumpOffset addr =>
    have hv0 : m.reg? 0 = some (m.reg 0) := reg?_of_lt m (by decide)
    have hv := (m.reg 0).toNat_lt
    have hs : addr.toNat + (m.reg 0).toUInt16.toNat < 65536 := by
      rw [UInt8.toNat_toUInt16]
      omega
    simp [execute, hv0, Host.sum?_of_lt hs]
  case draw x y n => exact drawAtIndex?_of_lt m hreg.1 hreg.2 n
  case waitKey x =>
    simp only [execute, Keypad.firstDown?_eq]
    cases hk : m.keypad.firstDown <;> simp [setReg?_of_lt _ hreg]
  case storeBcd x =>
    have hs : (m.storeAtIndex? 3 fun _ => some (decimalDigits (m.reg x))) = _ :=
      storeAtIndex?_eq m (decimalDigits (m.reg x)) (by simp [decimalDigits])
    simpa [execute, reg?_of_lt m hreg] using hs
  case dumpRegisters x =>
    have hs := storeAtIndex?_eq m (m.firstRegisters x) (by rw [length_firstRegisters]; omega)
    rw [length_firstRegisters] at hs
    simpa [execute, hcount hreg, firstRegisters?_of_lt m hreg] using hs
  case loadRegisters x => simpa [hcount hreg] using loadFromIndex?_of_lt m hreg
  all_goals
    simp [execute, hreg, reg?_of_lt, setReg?_of_lt, setFlag?_eq, skipIf?_of_le hhi,
      Keypad.isDown?_eq, Memory.glyphAddr?_eq]

/-! ### The cycle -/

theorem tick?_eq (m : Machine) : m.tick? = some m.tick := by
  simp [tick?, tick, Host.countDown?_eq]

theorem fetch?_eq (m : Machine) : m.fetch? = some m.fetch := by
  rw [fetch?, bytes, Bytes.word?_memory, fetch]
  rcases Nat.lt_or_ge 4094 m.pc.toNat with hp | hp
  · rw [Memory.word_of_gt hp]
    rfl
  · have hnext : Host.sum? m.pc 2 = some (m.pc + 2) := Host.sum?_two (by omega)
    rw [Memory.word_of_le hp]
    simp [hnext]

/-- Past a word in memory, whatever the word is. -/
theorem perform?_of_le (hlo : 2 ≤ m.pc.toNat) (hhi : m.pc.toNat ≤ 4096) (pc : UInt16) (w : Word) :
    m.perform? pc w = some (m.perform pc w) := by
  rw [perform?, perform]
  cases hd : Instruction.decode w with
  | none => rfl
  | some i =>
    have he := execute?_of_narrow (Pattern.narrow_of_decode hd) hlo hhi
    simp only [announce, Outcome.andThen?, Outcome.andThen, he, Option.bind_eq_bind,
      Option.bind_some]
    cases hr : (m.execute i).result with
    | error f => rfl
    | ok a => simp [tick?_eq]

theorem step?_eq (m : Machine) : m.step? = some m.step := by
  rw [step?, fetch?_eq, step]
  rcases Nat.lt_or_ge 4094 m.pc.toNat with hp | hp
  · rw [fetch_of_error (Memory.word_of_gt hp)]
    rfl
  · have hpc := toNat_pc_fetched hp
    have hperform := perform?_of_le (m := m.fetched) (by omega) (by omega) m.pc
      (m.memory.wordAt m.pc.toNat)
    rw [fetch_of_ok (Memory.word_of_le hp)]
    simp [Outcome.andThen?, Outcome.andThen, succeed, hperform]

/-- No check of a cycle fails. -/
theorem cycle?_eq (m : Machine) : m.cycle? = some m.cycle := by
  rw [cycle?, cycle]
  cases m.fault with
  | some f => rfl
  | none =>
    simp only [step?_eq, Option.bind_eq_bind, Option.bind_some]
    cases m.step.result <;> rfl

end Machine

end Chip8
