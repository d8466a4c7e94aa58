import Chip8.Grid

/-! The screen as a terminal shows it: 64 by 32 tiles inside a border with a title.

    A canvas has its origin at the top left tile inside the border and counts upwards, so the cell
    in column `x` of row `y` is the point `(x, -y)`. Drawing a grid paints the border, then all dark
    cells, then all lit ones, over whatever was shown before. -/

namespace Chip8.Terminal

/-- What one place of the terminal shows. -/
inductive Tile
  /-- A character of the border, or a blank. -/
  | text (c : Char)
  /-- A dark cell of the screen. -/
  | dark
  /-- A lit cell of the screen. -/
  | lit
  deriving DecidableEq, Repr

/-- The character that shows a tile on a dark terminal. -/
def Tile.char : Tile → Char
  | text c => c
  | dark => ' '
  | lit => '█'

/-- What the terminal shows, row by row. -/
structure Picture where
  tiles : Vector Tile 2244
  deriving DecidableEq

namespace Picture

/-- Columns of the picture. -/
abbrev width : Nat := 66

/-- Rows of the picture. -/
abbrev height : Nat := 34

/-- A terminal on which nothing was drawn. -/
def blank : Picture := ⟨Vector.replicate 2244 (.text ' ')⟩

/-- What the place in a column of a row shows. -/
def tile (p : Picture) (column row : Nat) : Tile := p.tiles[row * width + column]?.getD (.text ' ')

/-- The rows from the top, each from the left. -/
def rows (p : Picture) : List (List Tile) :=
  (List.range height).map fun row => (List.range width).map fun column => p.tile column row

/-- The lines of the picture as a dark terminal shows them. -/
def lines (p : Picture) : List String := p.rows.map fun row => String.ofList (row.map Tile.char)

/-- Show something at a place. -/
def put (p : Picture) (column row : Nat) (t : Tile) : Picture :=
  ⟨p.tiles.setIfInBounds (row * width + column) t⟩

/-- The character of the border at a place; the title stands in the top edge. -/
def borderChar (column row : Nat) : Char :=
  if row = 0 then
    if column = 0 then '┌'
    else if column = width - 1 then '┐'
    else "CHIP-8".toList[column - 1]?.getD '─'
  else if row = height - 1 then
    if column = 0 then '└' else if column = width - 1 then '┘' else '─'
  else '│'

/-- Whether a place lies on the border. -/
def onBorder (column row : Nat) : Bool :=
  row == 0 || row == height - 1 || column == 0 || column == width - 1

/-- The places on the border. -/
def border : List (Nat × Nat) :=
  (List.range height).flatMap fun row =>
    ((List.range width).filter fun column => onBorder column row).map fun column => (column, row)

/-- Show the border. -/
def withBorder (p : Picture) : Picture :=
  border.foldl (fun p (column, row) => p.put column row (.text (borderChar column row))) p

/-- The canvas points of the cells that are lit, or of those that are not, in reading order. -/
def points (g : Grid) (lit : Bool) : List (Int × Int) :=
  (List.range (Grid.width * Grid.height)).filterMap fun index =>
    let x := index % Grid.width
    let y := index / Grid.width
    if g.isLit x y = lit then some ((x : Int), -(y : Int)) else none

/-- Paint a canvas point. -/
def plot (t : Tile) (p : Picture) (point : Int × Int) : Picture :=
  p.put (point.1 + 1).toNat (1 - point.2).toNat t

/-- Paint points one after the other. -/
def paint (p : Picture) (points : List (Int × Int)) (t : Tile) : Picture := points.foldl (plot t) p

/-- Show a grid, over whatever was shown before. -/
def draw (p : Picture) (g : Grid) : Picture :=
  (p.withBorder.paint (points g false) .dark).paint (points g true) .lit

/-! ### What a picture shows -/

/-- What the place in a column of a row has to show of a grid: the border, or the cell that is there
inside it. -/
def tileOf (g : Grid) (column row : Nat) : Tile :=
  if onBorder column row then .text (borderChar column row)
  else if g.isLit (column - 1) (row - 1) then .lit
  else .dark

/-- Every place shows what it has to show of a grid. -/
def Shows (p : Picture) (g : Grid) : Prop :=
  ∀ column < width, ∀ row < height, p.tile column row = tileOf g column row

end Picture

end Chip8.Terminal
