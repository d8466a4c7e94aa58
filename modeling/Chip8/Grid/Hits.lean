import Chip8.Grid

/-! How often a sprite HITS a cell, and drawings one after another.

    A sprite with its corner at `(x, y)` lies over the torus with its column `j` in column `x + j` and
    its row `r` in row `y + r`, both wrapped. A cell may lie under several set bits, as a sprite of
    more than 32 rows comes round to its own first rows. How many they are is said here of the bits
    and of the place of the cell, without drawing anything. -/

namespace Chip8.Grid

/-- The column of a cell. -/
def column (c : Cell) : Nat := c.val % width

/-- The row of a cell. -/
def row (c : Cell) : Nat := c.val / width

/-- Whether the bit in column `j` of row `r` of a sprite is set and lies over a cell. The most
significant bit of a row is in column 0. -/
def covers (sprite : List UInt8) (x y r j : Nat) (c : Cell) : Bool :=
  (sprite[r]?.getD 0).toNat.testBit (7 - j) && column c == (x + j) % width &&
    row c == (y + r) % height

/-- The rows and columns of the bits of a sprite. -/
def places (rows : Nat) : List (Nat × Nat) :=
  (List.range rows).flatMap fun r => (List.range 8).map fun j => (r, j)

/-- How many set bits of a sprite lie over a cell. -/
def hits (sprite : List UInt8) (x y : Nat) (c : Cell) : Nat :=
  (places sprite.length).countP fun place => covers sprite x y place.1 place.2 c

/-- A sprite and where it is drawn. -/
structure Drawing where
  sprite : List UInt8
  x : UInt8
  y : UInt8
  deriving DecidableEq, Repr

/-- Draw one after the other: the grid after the last drawing, and the collision of each. -/
def drawAll (g : Grid) : List Drawing → Grid × List Bool
  | [] => (g, [])
  | d :: rest =>
    let drawn := g.draw d.sprite d.x d.y
    ((drawn.1.drawAll rest).1, drawn.2 :: (drawn.1.drawAll rest).2)

end Chip8.Grid
