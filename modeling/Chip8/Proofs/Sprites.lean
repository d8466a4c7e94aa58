import Mathlib.Tactic
import Chip8.Grid.Hits
import Chip8.Proofs.Cells

/-! Drawing COUNTS: what becomes of a cell is told by how many set bits of the sprite lie over it.

    To draw is to toggle cells one after the other. By induction on these, a cell is changed over if
    it is among them an odd number of times (`lit_toggled`), and a lit cell goes dark somewhere on
    the way if one of them was lit or comes twice (`collides_toggled`). The cells of a sprite are the
    ones under its set bits, each as often as it is hit (`count_spriteCells`), and no more than once
    if the sprite does not come round to its own first rows (`hits_le_one`). Those of several drawings
    are the cells of each of them: their order does not count (`drawAll_perm`). -/

namespace Chip8.Grid

variable {g : Grid} {sprite : List UInt8} {x y : UInt8} {cells rest : List Cell} {c d : Cell}

/-! ### Toggling cells -/

theorem parity_add (a b : Nat) : ((a + b) % 2 == 1) = ((a % 2 == 1) ^^ (b % 2 == 1)) := by
  rcases Nat.mod_two_eq_zero_or_one a with ha | ha <;>
    rcases Nat.mod_two_eq_zero_or_one b with hb | hb <;> simp [Nat.add_mod, ha, hb]

theorem lit_toggled (drawn : Grid × Bool) (cells : List Cell) (c : Cell) :
    (cells.foldl toggle drawn).1.lit c = (drawn.1.lit c ^^ (cells.count c % 2 == 1)) := by
  induction cells generalizing drawn with
  | nil => simp
  | cons d rest ih =>
    have hone : ((if (d == c) = true then 1 else 0) % 2 == 1) = (d == c) := by cases d == c <;> rfl
    rw [List.foldl_cons, ih, toggle, lit_flip, List.count_cons, parity_add, hone, Bool.xor_assoc,
      Bool.xor_comm (d == c)]

/-- Whether a cell that is toggled with others was lit, or is toggled again. -/
def Collides (g : Grid) (cells : List Cell) (c : Cell) : Prop :=
  1 ≤ cells.count c ∧ g.lit c = true ∨ 2 ≤ cells.count c

/-- A cell collides with the first that is toggled, if that is itself and lit, or with the others. -/
theorem collides_cons :
    Collides g (d :: rest) c ↔ (c = d ∧ g.lit d = true) ∨ Collides (g.flip d) rest c := by
  rw [Collides, Collides, lit_flip, List.count_cons]
  by_cases h : d = c
  · subst h
    generalize rest.count d = n
    cases g.lit d with
    | true => simp
    | false =>
      simp only [beq_self_eq_true, if_true, Bool.false_eq_true, and_false, false_or,
        Bool.false_xor, and_true]
      omega
  · simp [beq_eq_false_iff_ne.mpr h, Ne.symm h]

theorem collides_toggled (drawn : Grid × Bool) (cells : List Cell) :
    (cells.foldl toggle drawn).2 = true ↔ drawn.2 = true ∨ ∃ c, Collides drawn.1 cells c := by
  induction cells generalizing drawn with
  | nil => simp [Collides]
  | cons d rest ih =>
    rw [List.foldl_cons, ih, toggle]
    simp only [collides_cons, exists_or, exists_eq_left, Bool.or_eq_true, or_assoc]

/-! ### The cells of a sprite -/

theorem cellAt_eq_iff (x y : Nat) (c : Cell) :
    cellAt x y = c ↔ column c = x % width ∧ row c = y % height := by
  have hc := c.isLt
  rw [Fin.ext_iff]
  simp only [cellAt, column, row, width, height]
  omega

theorem places_succ (rows : Nat) : places (rows + 1) =
    (List.range 8).map (fun j => (0, j)) ++
      (places rows).map fun place => (place.1 + 1, place.2) := by
  rw [places, List.range_succ_eq_map (n := rows), List.flatMap_cons, List.flatMap_map, places, List.map_flatMap]
  simp only [List.map_map]
  rfl

theorem hits_cons (bits : UInt8) (rest : List UInt8) (x y : Nat) (c : Cell) :
    hits (bits :: rest) x y c =
      ((List.range 8).countP fun j => bits.toNat.testBit (7 - j) && cellAt (x + j) y == c) +
        hits rest x (y + 1) c := by
  rw [hits, List.length_cons, places_succ, List.countP_append, List.countP_map, List.countP_map]
  congr 1
  · refine List.countP_congr fun j _ => ?_
    simp [covers, cellAt_eq_iff, and_assoc]
  · rw [hits]
    refine List.countP_congr fun place _ => ?_
    simp [covers, Nat.add_assoc, Nat.add_comm 1]

/-- A cell is among those of a sprite as often as a set bit lies over it. -/
theorem count_spriteCells (sprite : List UInt8) (x y : Nat) (c : Cell) :
    (spriteCells sprite x y).count c = hits sprite x y c := by
  induction sprite generalizing y with
  | nil => rfl
  | cons bits rest ih =>
    rw [spriteCells, List.count_append, ih, hits_cons, rowColumns, List.count, List.countP_map,
      List.countP_filter]
    congr 1
    refine List.countP_congr fun j _ => ?_
    simp [and_comm]

theorem rowColumns_eq_nil_iff (bits : UInt8) : rowColumns bits = [] ↔ bits = 0 := by
  rw [rowColumns, List.filter_eq_nil_iff]
  constructor
  · intro h
    refine UInt8.toNat_inj.mp (Nat.zero_of_testBit_eq_false fun i => ?_)
    rcases Nat.lt_or_ge i 8 with hi | hi
    · have hbit := h (7 - i) (List.mem_range.mpr (by omega))
      rwa [show 7 - (7 - i) = i by omega, Bool.not_eq_true] at hbit
    · refine Nat.testBit_lt_two_pow (Nat.lt_of_lt_of_le bits.toNat_lt ?_)
      exact Nat.pow_le_pow_right (by decide) hi
  · rintro rfl
    simp

theorem spriteCells_eq_nil_iff (sprite : List UInt8) (x y : Nat) :
    spriteCells sprite x y = [] ↔ ∀ bits ∈ sprite, bits = 0 := by
  induction sprite generalizing y with
  | nil => simp [spriteCells]
  | cons bits rest ih =>
    rw [spriteCells, List.append_eq_nil_iff, List.map_eq_nil_iff, rowColumns_eq_nil_iff,
      List.forall_mem_cons]
    exact and_congr_right fun _ => ih (y + 1)

/-- Only a sprite without a set bit hits nothing. -/
theorem hits_eq_zero_iff (sprite : List UInt8) (x y : Nat) :
    (∀ c, hits sprite x y c = 0) ↔ ∀ bits ∈ sprite, bits = 0 := by
  rw [← spriteCells_eq_nil_iff sprite x y, List.eq_nil_iff_forall_not_mem]
  refine forall_congr' fun c => ?_
  rw [← count_spriteCells, List.count_eq_zero]

/-! ### Sprites that do not come round -/

theorem row_of_mem {x y : Nat} (h : c ∈ spriteCells sprite x y) :
    ∃ r < sprite.length, row c = (y + r) % height := by
  induction sprite generalizing y with
  | nil => simp [spriteCells] at h
  | cons bits rest ih =>
    rw [spriteCells, List.mem_append, List.mem_map] at h
    rcases h with ⟨j, -, hc⟩ | hrest
    · exact ⟨0, Nat.zero_lt_succ _, ((cellAt_eq_iff _ _ _).mp hc).2⟩
    · obtain ⟨r, hr, hrow⟩ := ih hrest
      refine ⟨r + 1, Nat.succ_lt_succ hr, ?_⟩
      rw [hrow, Nat.add_assoc, Nat.add_comm 1]

theorem nodup_spriteCells {x y : Nat} (h : sprite.length ≤ height) :
    (spriteCells sprite x y).Nodup := by
  induction sprite generalizing y with
  | nil => exact List.nodup_nil
  | cons bits rest ih =>
    rw [List.length_cons, height] at h
    rw [spriteCells, List.nodup_append']
    refine ⟨?_, ih (by rw [height]; omega), ?_⟩
    · -- the columns of a row are less than a width apart
      refine List.Nodup.map_on ?_ (List.nodup_range.filter _)
      intro j hj k hk e
      have hj := List.mem_range.mp (List.mem_of_mem_filter hj)
      have hk := List.mem_range.mp (List.mem_of_mem_filter hk)
      have hcolumn := ((cellAt_eq_iff _ _ _).mp e).1
      rw [((cellAt_eq_iff _ _ _).mp rfl).1, width] at hcolumn
      omega
    · -- and its rows are less than a height apart
      intro c hc hrest
      obtain ⟨j, -, hc⟩ := List.mem_map.mp hc
      obtain ⟨r, hr, hrow⟩ := row_of_mem hrest
      rw [((cellAt_eq_iff _ _ _).mp hc).2, height] at hrow
      omega

/-- A sprite of at most 32 rows hits no cell twice. -/
theorem hits_le_one (h : sprite.length ≤ height) (x y : Nat) (c : Cell) :
    hits sprite x y c ≤ 1 := by
  rw [← count_spriteCells]
  exact List.nodup_iff_count_le_one.mp (nodup_spriteCells h) c

/-! ### One drawing -/

theorem lit_draw (g : Grid) (sprite : List UInt8) (x y : UInt8) (c : Cell) :
    (g.draw sprite x y).1.lit c = (g.lit c ^^ (hits sprite x.toNat y.toNat c % 2 == 1)) := by
  rw [draw, lit_toggled, count_spriteCells]

theorem collision_draw (g : Grid) (sprite : List UInt8) (x y : UInt8) :
    (g.draw sprite x y).2 = true ↔
      ∃ c, 1 ≤ hits sprite x.toNat y.toNat c ∧ g.lit c = true ∨
        2 ≤ hits sprite x.toNat y.toNat c := by
  rw [draw, collides_toggled]
  simp [Collides, count_spriteCells]

/-- A sprite drawn twice is gone. -/
theorem draw_draw (g : Grid) (sprite : List UInt8) (x y : UInt8) :
    ((g.draw sprite x y).1.draw sprite x y).1 = g := by
  refine ext_lit fun c => ?_
  rw [lit_draw, lit_draw, Bool.xor_assoc, Bool.xor_self, Bool.xor_false]

/-- A sprite that does not come round collides where it lies over a lit cell. -/
theorem collision_draw_short (h : sprite.length ≤ height) :
    (g.draw sprite x y).2 = true ↔
      ∃ c, 1 ≤ hits sprite x.toNat y.toNat c ∧ g.lit c = true := by
  rw [collision_draw]
  refine exists_congr fun c => or_iff_left ?_
  have := hits_le_one h x.toNat y.toNat c
  omega

/-- Drawn again, it collides where it lay over a dark cell. -/
theorem collision_redraw_short (h : sprite.length ≤ height) :
    ((g.draw sprite x y).1.draw sprite x y).2 = true ↔
      ∃ c, 1 ≤ hits sprite x.toNat y.toNat c ∧ g.lit c = false := by
  rw [collision_draw_short h]
  refine exists_congr fun c => and_congr_right fun hc => ?_
  have hone : hits sprite x.toNat y.toNat c = 1 :=
    Nat.le_antisymm (hits_le_one h x.toNat y.toNat c) hc
  rw [lit_draw, hone]
  cases g.lit c <;> simp

/-- HITS: to draw a sprite of any length at any position is to change over the cells that it hits an
odd number of times. It collides if it hits a lit cell, or some cell twice. The cells of a host that
show the grid are drawn on alike. -/
theorem draw_hits (g : Grid) (sprite : List UInt8) (x y : UInt8) :
    let h := hits sprite x.toNat y.toNat
    let drawn := g.draw sprite x y
    (∀ c, drawn.1.lit c ≠ g.lit c ↔ h c % 2 = 1) ∧
      (drawn.2 = true ↔ ∃ c, 1 ≤ h c ∧ g.lit c = true ∨ 2 ≤ h c) ∧
      Cells.draw? g.words sprite x y = some (drawn.1.words, drawn.2) := by
  intro h drawn
  refine ⟨?_, collision_draw g sprite x y, Cells.draw?_words g sprite x y⟩
  intro c
  rw [lit_draw]
  cases g.lit c <;> simp [h]

/-- A column of 33 rows comes round to its first row and hits it twice: so it takes it back, and
collides also on a screen that was dark. -/
example :
    let column : List UInt8 := List.replicate 33 0x80
    hits column 0 0 (cellAt 0 0) = 2 ∧ hits column 0 0 (cellAt 0 1) = 1 := by
  decide +kernel

/-! ### Drawings one after another -/

/-- The cells under the set bits of the sprites that are drawn. -/
def drawingCells (ds : List Drawing) : List Cell :=
  ds.flatMap fun d => spriteCells d.sprite d.x.toNat d.y.toNat

theorem lit_drawAll (g : Grid) (ds : List Drawing) (c : Cell) :
    (g.drawAll ds).1.lit c = (g.lit c ^^ ((drawingCells ds).count c % 2 == 1)) := by
  induction ds generalizing g with
  | nil => simp [drawAll, drawingCells]
  | cons d rest ih =>
    have hcells : drawingCells (d :: rest) =
        spriteCells d.sprite d.x.toNat d.y.toNat ++ drawingCells rest := List.flatMap_cons
    rw [drawAll, ih, draw, lit_toggled, hcells, List.count_append, parity_add, Bool.xor_assoc]

/-- Permuted drawings have the same cells under them, each as often. -/
theorem count_drawingCells_perm {ds ds' : List Drawing} (h : ds.Perm ds') (c : Cell) :
    (drawingCells ds').count c = (drawingCells ds).count c :=
  (List.Perm.count_eq (List.Perm.flatMap_right _ h) c).symm

/-- ORDER: drawings made in another order leave the same grid, and made after the first ones, in any
order, they take them back. -/
theorem drawAll_perm (g : Grid) {ds ds' : List Drawing} (h : ds.Perm ds') :
    (g.drawAll ds').1 = (g.drawAll ds).1 ∧ ((g.drawAll ds).1.drawAll ds').1 = g := by
  constructor
  · refine ext_lit fun c => ?_
    rw [lit_drawAll, lit_drawAll, count_drawingCells_perm h]
  · refine ext_lit fun c => ?_
    rw [lit_drawAll, lit_drawAll, count_drawingCells_perm h, Bool.xor_assoc, Bool.xor_self,
      Bool.xor_false]

/-- Two drawings that overlap, changed round: the grid is the same, though the one that collides
is the second in either order. -/
theorem drawAll_perm_overlap :
    let box : Drawing := ⟨[0xc0, 0xc0], 63, 31⟩
    let bar : Drawing := ⟨[0xe0], 62, 0⟩
    [box, bar].Perm [bar, box] ∧ dark.drawAll [bar, box] = dark.drawAll [box, bar] ∧
      (dark.drawAll [box, bar]).2 = [false, true] ∧
      ((dark.drawAll [box, bar]).1.drawAll [bar, box]).1 = dark := by
  intro box bar
  have h : [box, bar].Perm [bar, box] := List.Perm.swap bar box []
  have ⟨hsame, hback⟩ := drawAll_perm dark h
  refine ⟨h, ?_, ?_, hback⟩
  · exact Prod.ext hsame (by decide +kernel)
  · decide +kernel

end Chip8.Grid
