import Chip8.Terminal.Picture

/-! The CANVAS that a screen is painted on.

    A canvas lies inside a border in a part of the terminal. It has coordinates of its own, within
    bounds that are given to it, and a point has the cell that lies where the point lies between the
    bounds. What a terminal does besides is its own affair: of a canvas it is only asked that it
    paints the points that it is told to, and no other, over whatever was there. -/

namespace Chip8.Terminal

/-- The tile of a lit or of a dark cell. -/
def Tile.ofCell (lit : Bool) : Tile := if lit then .lit else .dark

/-- The part of the terminal that a canvas takes up, border included, and the bounds of its
coordinates. -/
structure View where
  columns : Nat
  rows : Nat
  left : Int
  right : Int
  bottom : Int
  top : Int

/-- The view of the screen: each cell of it has a cell of the terminal and an integer point. -/
def View.screen : View where
  columns := 2 + Grid.width
  rows := 2 + Grid.height
  left := 0
  right := Grid.width - 1
  bottom := -(Grid.height - 1)
  top := 0

/-- A terminal with a canvas. -/
class Canvas (σ : Type) where
  /-- Begin a new picture, with its border. -/
  start : View → σ → σ
  /-- Paint points in the colour of lit or of dark cells. -/
  paint : View → List (Int × Int) → Bool → σ → σ
  /-- What the terminal shows in a column of a row, counted inside the border from the top left. -/
  tile : σ → Nat → Nat → Tile

namespace Canvas

/-- The point of the cell in column `x` of row `y`: rows go down, and coordinates up. -/
def point (x y : Nat) : Int × Int := (x, -y)

variable {σ : Type} [Canvas σ]

/-- Show a grid: its dark cells, then its lit ones. -/
def draw (s : σ) (g : Grid) : σ :=
  let dark := paint View.screen (Picture.points g false) false (start View.screen s)
  paint View.screen (Picture.points g true) true dark

/-- Show grids one after the other. -/
def drawAll (s : σ) (frames : List Grid) : σ := frames.foldl draw s

variable (σ) in
/-- A canvas in the view of the screen paints the point `(x, -y)` on the cell in column `x` of row
`y`, and a cell keeps what was painted on it last. -/
def Exact : Prop :=
  ∀ (s : σ) (points : List (Int × Int)) (lit : Bool), ∀ x < Grid.width, ∀ y < Grid.height,
    tile (paint View.screen points lit s) x y =
      if point x y ∈ points then .ofCell lit else tile s x y

end Canvas

namespace Picture

/-- The place of a point in a view, if it is within bounds. -/
def place? (v : View) (point : Int × Int) : Option (Nat × Nat) :=
  if v.left ≤ point.1 ∧ point.1 ≤ v.right ∧ v.bottom ≤ point.2 ∧ point.2 ≤ v.top then
    some (((point.1 - v.left) * (v.columns - 3) / (v.right - v.left) + 1).toNat,
      ((v.top - point.2) * (v.rows - 3) / (v.top - v.bottom) + 1).toNat)
  else none

/-- Paint a point of a view. -/
def plotIn (v : View) (t : Tile) (p : Picture) (point : Int × Int) : Picture :=
  match place? v point with
  | some (column, row) => p.put column row t
  | none => p

instance : Canvas Picture where
  start _ p := p.withBorder
  paint v points lit p := points.foldl (plotIn v (.ofCell lit)) p
  tile p x y := p.tile (x + 1) (y + 1)

end Picture

end Chip8.Terminal
