import Mathlib.Data.Nat.Bitwise
import Mathlib.Tactic
import Chip8.Grid.Cells
import Chip8.Proofs.Checked

/-! The screen in a host SHOWS the grid.

    The words of a grid are its cells, one for each, lit or dark; toggling one of them, and so drawing
    a sprite, leaves the words of the grid that the same does to the grid leaves, tells the same
    collision and never stops the host (`draw?_words`). -/

namespace Chip8

namespace Cells

open Grid (Cell cellAt rowColumns spriteCells)

variable {g : Grid} {x y : Nat}

/-! ### One word -/

theorem word_beq_on (lit : Bool) : (word lit == on) = lit := by cases lit <;> rfl

theorem word_toggled (lit : Bool) : word lit ^^^ on = word (!lit) := by cases lit <;> rfl

theorem word_beq_off (lit : Bool) : (word lit == off) = !lit := by cases lit <;> rfl

/-! ### The words of a grid -/

theorem length_words (g : Grid) : g.words.length = 2048 := by simp [Grid.words]

theorem getElem?_words (g : Grid) (c : Cell) : g.words[c.val]? = some (word (g.lit c)) := by
  simp [Grid.words, Grid.lit]

theorem words_dark : Grid.dark.words = dark := by
  rw [Grid.words, Grid.dark, Vector.toList_replicate, List.map_replicate]
  rfl

theorem clear_words (g : Grid) : clear g.words = Grid.dark.words := by
  rw [clear, length_words, words_dark]
  rfl

theorem words_flip (g : Grid) (c : Cell) :
    (g.flip c).words = g.words.set c.val (word (!g.lit c)) := by
  rw [Grid.words, Grid.flip, Vector.toList_set, List.map_set]
  rfl

/-- A word of a grid is that of a lit or of a dark cell. -/
theorem on_or_off_words (g : Grid) : ∀ w ∈ g.words, w = on ∨ w = off := by
  intro w hw
  obtain ⟨lit, -, rfl⟩ := List.mem_map.mp hw
  cases lit
  · exact .inr rfl
  · exact .inl rfl

theorem isLit?_words (g : Grid) (x y : Nat) : isLit? g.words x y = some (g.isLit x y) := by
  rw [isLit?, show offset x y = (cellAt x y).val from rfl, getElem?_words, Option.map_some,
    word_beq_on]
  rfl

/-- The grid that some words show is the one that they are the words of. -/
theorem ofFn_words (g : Grid) :
    (⟨Vector.ofFn fun k => g.words[k.val]?.getD off == on⟩ : Grid) = g := by
  refine Grid.ext_lit fun c => ?_
  simp only [Grid.lit, Fin.getElem_fin, Vector.getElem_ofFn, getElem?_words, Option.getD_some,
    word_beq_on]

/-! ### Drawing -/

/-- What a step does to the states that stand for others, it does in a loop. -/
theorem foldlM_of_step {α σ τ : Type} {l : List α} {f? : τ → α → Option τ} {f : σ → α → σ}
    {shown : σ → τ} (h : ∀ a ∈ l, ∀ s, f? (shown s) a = some (shown (f s a))) (s : σ) :
    l.foldlM f? (shown s) = some (shown (l.foldl f s)) := by
  induction l generalizing s with
  | nil => rfl
  | cons a rest ih =>
    rw [List.foldlM_cons, h a (List.mem_cons_self ..)]
    exact ih (fun b hb => h b (List.mem_cons_of_mem _ hb)) (f s a)

/-- The words of a grid that is being drawn on. -/
def shown (drawn : Grid × Bool) : Cells × Bool := (drawn.1.words, drawn.2)

theorem toggle?_shown (drawn : Grid × Bool) (x y : Nat) :
    toggle? (shown drawn) x y = some (shown (Grid.toggle drawn (cellAt x y))) := by
  have hword : drawn.1.words[offset x y]? = some (word (drawn.1.lit (cellAt x y))) :=
    getElem?_words drawn.1 (cellAt x y)
  have hset := words_flip drawn.1 (cellAt x y)
  rw [show (cellAt x y).val = offset x y from rfl] at hset
  simp [toggle?, shown, hword, word_toggled, word_beq_off, Grid.toggle, hset]

/-- The bit that a column of a sprite row is held to. -/
theorem shifted_and_eq_zero_iff (bits : UInt8) {column : Nat} (h : column < 8) :
    bits &&& ((0x80 : UInt8) >>> UInt8.ofNat column) = 0 ↔
      bits.toNat.testBit (7 - column) = false := by
  have hpow : ((0x80 : UInt8) >>> UInt8.ofNat column).toNat = 2 ^ (7 - column) := by
    interval_cases column <;> rfl
  rw [← UInt8.toNat_inj, UInt8.toNat_and, hpow, Nat.and_two_pow]
  cases bits.toNat.testBit (7 - column) <;> simp

theorem drawRow?_shown (bits : UInt8) (x y : Nat) (drawn : Grid × Bool) :
    drawRow? bits x y (shown drawn) =
      some (shown (((rowColumns bits).map fun column => cellAt (x + column) y).foldl
        Grid.toggle drawn)) := by
  rw [List.foldl_map, rowColumns, List.foldl_filter]
  refine foldlM_of_step (fun column hcolumn drawn => ?_) drawn
  have hlt : column < 8 := List.mem_range.mp hcolumn
  by_cases hbit : bits.toNat.testBit (7 - column) = true
  · have hset : ¬ bits &&& ((0x80 : UInt8) >>> UInt8.ofNat column) = 0 := by
      rw [shifted_and_eq_zero_iff bits hlt, hbit]
      decide
    rw [if_neg hset, if_pos hbit, toggle?_shown]
  · have hclear := (shifted_and_eq_zero_iff bits hlt).mpr (Bool.not_eq_true _ ▸ hbit)
    rw [if_pos hclear, if_neg hbit]

theorem drawRows?_shown (sprite : List UInt8) (x y : Nat) (drawn : Grid × Bool) :
    drawRows? sprite x y (shown drawn) =
      some (shown ((spriteCells sprite x y).foldl Grid.toggle drawn)) := by
  induction sprite generalizing y drawn with
  | nil => rfl
  | cons bits rest ih =>
    rw [drawRows?, drawRow?_shown, Option.bind_eq_bind, Option.bind_some, ih, spriteCells,
      List.foldl_append]

/-- Drawing on the words of a grid is drawing on the grid. -/
theorem draw?_words (g : Grid) (sprite : List UInt8) (x y : UInt8) :
    draw? g.words sprite x y = some ((g.draw sprite x y).1.words, (g.draw sprite x y).2) := by
  have hdraw := drawRows?_shown sprite (x.toNat % Grid.width) (y.toNat % Grid.height) (g, false)
  rw [Grid.spriteCells_congr sprite (Nat.mod_mod _ _) (Nat.mod_mod _ _)] at hdraw
  exact hdraw

end Cells

end Chip8
