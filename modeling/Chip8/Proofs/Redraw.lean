import Mathlib.Tactic
import Chip8.Proofs.Effects
import Chip8.Proofs.Sprites

/-! A sprite that a program draws TWICE.

    The second draw reads the same sprite and the same position as the first, if the position is not
    in the flag register, which the first has written. So it takes the sprite back and leaves nothing
    but its flag (`drawn_drawn`). A sprite that does not come round collides the second time where it
    did not the first, so that the two flags together tell of every bit of it. -/

namespace Chip8.Machine

variable {m : Machine} {x y n : UInt8}

/-- The sprite that a draw of some rows reads. -/
def sprite (m : Machine) (n : UInt8) : List UInt8 := m.memory.slice m.index.toNat n.toNat

/-- The collisions of two draws of the same sprite. -/
def collisions (m : Machine) (x y n : UInt8) : Bool × Bool :=
  let drawn := m.grid.draw (m.sprite n) (m.reg x) (m.reg y)
  (drawn.2, (drawn.1.draw (m.sprite n) (m.reg x) (m.reg y)).2)

/-! ### What the first draw leaves to the second -/

theorem setReg_setReg (m : Machine) (x value other : UInt8) :
    (m.setReg x value).setReg x other = m.setReg x other := by
  simp [setReg, Bank.setEntry]

theorem drawn_eq (m : Machine) (x y n : UInt8) : m.drawn x y n =
    { m with grid := (m.grid.draw (m.sprite n) (m.reg x) (m.reg y)).1 }.setFlag
      (m.grid.draw (m.sprite n) (m.reg x) (m.reg y)).2 := rfl

theorem reg_drawn (h : nibble 0xf ≠ nibble x) (y z n : UInt8) :
    (m.drawn y z n).reg x = m.reg x := by
  rw [drawn, reg_setFlag, if_neg h]
  rfl

theorem flag_drawn (m : Machine) (x y n : UInt8) :
    (m.drawn x y n).reg 0xf = if (m.collisions x y n).1 then 1 else 0 := by
  rw [drawn, reg_setFlag, if_pos rfl]
  rfl

/-- The second of two draws takes the first back, and leaves its own flag. -/
theorem drawn_drawn (hx : nibble 0xf ≠ nibble x) (hy : nibble 0xf ≠ nibble y) :
    (m.drawn x y n).drawn x y n = m.setFlag (m.collisions x y n).2 := by
  have hgrid : (m.drawn x y n).grid = (m.grid.draw (m.sprite n) (m.reg x) (m.reg y)).1 := rfl
  have hsprite : (m.drawn x y n).sprite n = m.sprite n := rfl
  rw [drawn_eq (m.drawn x y n), reg_drawn hx, reg_drawn hy, hsprite, hgrid, Grid.draw_draw]
  exact setReg_setReg m 0xf _ _

/-- Nothing is in the way of a draw of rows that lie in memory. -/
theorem execute_draw (h : m.index.toNat + n.toNat ≤ 4096) :
    m.execute (.draw x y n) = (m.drawn x y n).succeed () :=
  execute_of_clear (missing_of_le h)

/-! ### What the flags tell -/

section Short

variable (hn : n.toNat ≤ 32)
include hn

theorem length_sprite_le (m : Machine) : (m.sprite n).length ≤ Grid.height := by
  rwa [sprite, Memory.length_slice]

/-- The first flag is up if some cell under the sprite was lit. -/
theorem first_collision : (m.collisions x y n).1 = true ↔
    ∃ c, 1 ≤ Grid.hits (m.sprite n) (m.reg x).toNat (m.reg y).toNat c ∧ m.grid.lit c = true :=
  Grid.collision_draw_short (length_sprite_le hn m)

/-- The second flag is up if some cell under the sprite was dark. -/
theorem second_collision : (m.collisions x y n).2 = true ↔
    ∃ c, 1 ≤ Grid.hits (m.sprite n) (m.reg x).toNat (m.reg y).toNat c ∧ m.grid.lit c = false :=
  Grid.collision_redraw_short (length_sprite_le hn m)

/-- Neither flag is up only if there is nothing to draw. -/
theorem no_collisions :
    (m.collisions x y n).1 = false ∧ (m.collisions x y n).2 = false ↔
      ∀ k < n.toNat, m.memory.byteAt (m.index.toNat + k) = 0 := by
  have hsprite : (∀ bits ∈ m.sprite n, bits = 0) ↔
      ∀ k < n.toNat, m.memory.byteAt (m.index.toNat + k) = 0 := by
    simp only [sprite, Memory.slice, List.forall_mem_map, List.mem_range'_1]
    constructor
    · intro h k hk
      exact h _ ⟨Nat.le_add_right _ _, Nat.add_lt_add_left hk _⟩
    · rintro h a ⟨hle, hlt⟩
      have hk := h (a - m.index.toNat) (by omega)
      rwa [Nat.add_sub_cancel' hle] at hk
  rw [← hsprite, ← Grid.hits_eq_zero_iff _ (m.reg x).toNat (m.reg y).toNat,
    ← Bool.not_eq_true, ← Bool.not_eq_true, first_collision hn, second_collision hn]
  constructor
  · rintro ⟨hlit, hdark⟩ c
    by_contra hc
    have hc := Nat.one_le_iff_ne_zero.mpr hc
    cases hcell : m.grid.lit c with
    | true => exact hlit ⟨c, hc, hcell⟩
    | false => exact hdark ⟨c, hc, hcell⟩
  · intro h
    simp [h]

end Short

/-- TWICE: a draw of at most 32 rows that lie in memory, at a position that is not in the flag
register, made once more, leaves the machine as it was but for the flag. The first flag is up if a
cell under the sprite was lit before, the second if one was dark before, and so neither only if all
rows are empty. -/
theorem draw_twice (m : Machine) (x y n : UInt8) (hx : x.toNat < 15) (hy : y.toNat < 15)
    (hn : n.toNat ≤ 32) (hi : m.index.toNat + n.toNat ≤ 4096) :
    let h := Grid.hits (m.sprite n) (m.reg x).toNat (m.reg y).toNat
    let first := m.execute (.draw x y n)
    let second := first.machine.execute (.draw x y n)
    first.result = .ok () ∧ second.result = .ok () ∧
      second.machine = m.setReg 0xf (second.machine.reg 0xf) ∧
      (first.machine.reg 0xf = if ∃ c, 1 ≤ h c ∧ m.grid.lit c = true then 1 else 0) ∧
      (second.machine.reg 0xf = if ∃ c, 1 ≤ h c ∧ m.grid.lit c = false then 1 else 0) ∧
      (first.machine.reg 0xf = 0 ∧ second.machine.reg 0xf = 0 ↔
        ∀ k < n.toNat, m.memory.byteAt (m.index.toNat + k) = 0) := by
  intro h first second
  have apart {z : UInt8} (hz : z.toNat < 15) : nibble 0xf ≠ nibble z := by
    intro e
    have := congrArg Fin.val e
    simp only [nibble, UInt8.reduceToNat] at this
    omega
  have hfirst : first = (m.drawn x y n).succeed () := execute_draw hi
  have hsecond : second = (m.setFlag (m.collisions x y n).2).succeed () := by
    rw [← drawn_drawn (apart hx) (apart hy)]
    simp only [second, hfirst]
    exact execute_draw hi
  have hflag : first.machine.reg 0xf = if (m.collisions x y n).1 then 1 else 0 := by
    rw [hfirst]
    exact flag_drawn m x y n
  have hflag' : second.machine.reg 0xf = if (m.collisions x y n).2 then 1 else 0 := by
    rw [hsecond]
    exact reg_setFlag m _ 0xf
  refine ⟨by rw [hfirst]; rfl, by rw [hsecond]; rfl, ?_, ?_, ?_, ?_⟩
  · rw [hflag', hsecond]
    rfl
  · rw [hflag]
    exact if_congr (first_collision hn) rfl rfl
  · rw [hflag']
    exact if_congr (second_collision hn) rfl rfl
  · rw [← no_collisions (m := m) (x := x) (y := y) hn, hflag, hflag']
    cases (m.collisions x y n).1 <;> cases (m.collisions x y n).2 <;> simp

/-- A `0` drawn with its corner over the one lit cell, twice: the first draw puts that cell out and
the others on, and the second undoes it. Both collide. -/
theorem draw_twice_over_lit :
    let m : Machine :=
      { powerOn (.ofSeed 0) with index := 0x50, grid := Grid.dark.flip (Grid.cellAt 0 0) }
    let first := m.execute (.draw 3 14 5)
    let second := first.machine.execute (.draw 3 14 5)
    second.machine = m.setReg 0xf 1 ∧ first.machine.reg 0xf = 1 := by
  intro m first second
  have ⟨_, _, hback, hlit, hdark, _⟩ :=
    draw_twice m 3 14 5 (by decide) (by decide) (by decide) (by decide)
  have hfirst : first.machine.reg 0xf = 1 :=
    hlit.trans (if_pos ⟨Grid.cellAt 0 0, by decide +kernel, by decide +kernel⟩)
  have hsecond : second.machine.reg 0xf = 1 :=
    hdark.trans (if_pos ⟨Grid.cellAt 3 4, by decide +kernel, by decide +kernel⟩)
  exact ⟨hsecond ▸ hback, hfirst⟩

end Chip8.Machine
