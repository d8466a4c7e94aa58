/-! The screen: 64 by 32 cells, lit or dark, on a torus.

    A sprite is a list of bytes, one row of eight cells each, most significant bit leftmost. Drawing
    toggles the cell under every set bit, one after the other, and reports a collision when a lit
    cell goes dark. Positions wrap at both edges, so a sprite of more than 32 rows covers its own
    first rows again. -/

namespace Chip8

/-- The cells row by row: the cell in column `x` of row `y` has index `64 * y + x`. -/
structure Grid where
  cells : Vector Bool 2048
  deriving DecidableEq

namespace Grid

/-- Columns of the grid. -/
abbrev width : Nat := 64

/-- Rows of the grid. -/
abbrev height : Nat := 32

/-- A cell by its index. -/
abbrev Cell := Fin 2048

/-- The cell in column `x` of row `y`, both wrapped. -/
def cellAt (x y : Nat) : Cell :=
  ⟨y % height * width + x % width, by simp only [height, width]; omega⟩

/-- The grid with every cell dark. -/
def dark : Grid := ⟨Vector.replicate 2048 false⟩

/-- Whether a cell is lit. -/
def lit (g : Grid) (c : Cell) : Bool := g.cells[c]

/-- Whether the cell in column `x` of row `y` is lit; positions wrap. -/
def isLit (g : Grid) (x y : Nat) : Bool := g.lit (cellAt x y)

/-- How many cells are lit. -/
def count (g : Grid) : Nat := g.cells.count true

/-- The grid with one cell changed over. -/
def flip (g : Grid) (c : Cell) : Grid := ⟨g.cells.set c (!g.lit c)⟩

/-! ### Sprites -/

/-- The columns of the set bits of a sprite row, from left to right. -/
def rowColumns (bits : UInt8) : List Nat :=
  (List.range 8).filter fun column => bits.toNat.testBit (7 - column)

/-- The cells under the set bits of a sprite with its top left corner at `(x, y)`, row by row. -/
def spriteCells : List UInt8 → Nat → Nat → List Cell
  | [], _, _ => []
  | bits :: rest, x, y =>
    (rowColumns bits).map (fun column => cellAt (x + column) y) ++ spriteCells rest x (y + 1)

/-- Toggle one cell, and note whether that switched it off. -/
def toggle (drawn : Grid × Bool) (c : Cell) : Grid × Bool :=
  (drawn.1.flip c, drawn.2 || drawn.1.lit c)

/-- Draw a sprite at `(x, y)`: the grid after it, and whether a lit cell went dark. -/
def draw (g : Grid) (sprite : List UInt8) (x y : UInt8) : Grid × Bool :=
  (spriteCells sprite x.toNat y.toNat).foldl toggle (g, false)

/-! ### The view through `lit` -/

@[simp] theorem lit_dark (c : Cell) : dark.lit c = false := by simp [lit, dark]

/-- Changing a cell over changes that cell and no other. -/
@[simp] theorem lit_flip (g : Grid) (c d : Cell) : (g.flip c).lit d = (g.lit d ^^ (c == d)) := by
  by_cases h : c = d
  · subst h; simp [lit, flip]
  · have : (c : Nat) ≠ d := fun e => h (Fin.ext e)
    simp [lit, flip, beq_eq_false_iff_ne.mpr h, Vector.getElem_set_ne _ _ this]

/-- Two grids that agree cell by cell are equal. -/
theorem ext_lit {g h : Grid} (e : ∀ c, g.lit c = h.lit c) : g = h := by
  cases g; cases h
  congr 1
  ext i hi
  exact e ⟨i, hi⟩

/-- Positions wrap at both edges. -/
theorem cellAt_mod (x y : Nat) : cellAt (x % width) (y % height) = cellAt x y := by
  simp [cellAt]

end Grid

end Chip8
