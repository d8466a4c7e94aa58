import Chip8.Grid

/-! The screen as it lies in a host: a word of 32 bits for each cell, as many words as there are.

    A lit cell has every bit set and a dark one none, so that an exclusive or with the lit word both
    toggles a cell and leaves what is looked at to tell a collision. That no cell has any other
    value is nowhere checked. The host stops, which is written `none`, at a cell that is not there. -/

namespace Chip8

/-- Words in a row, one for each cell. -/
abbrev Cells := List UInt32

namespace Cells

/-- The word of a lit cell. -/
def on : UInt32 := 0xffffffff

/-- The word of a dark cell. -/
def off : UInt32 := 0

/-- The cells at power-on. -/
def dark : Cells := List.replicate (Grid.width * Grid.height) off

/-- Darken every cell. -/
def clear (cells : Cells) : Cells := List.replicate cells.length off

/-- Where the cell in column `x` of row `y` lies, both wrapped. -/
def offset (x y : Nat) : Nat := y % Grid.height * Grid.width + x % Grid.width

/-- Whether the cell in column `x` of row `y` is lit. -/
def isLit? (cells : Cells) (x y : Nat) : Option Bool := (cells[offset x y]?).map (· == on)

/-- Toggle the cell in column `x` of row `y`, and note whether it is dark then. -/
def toggle? (drawn : Cells × Bool) (x y : Nat) : Option (Cells × Bool) := do
  let word := (← drawn.1[offset x y]?) ^^^ on
  return (drawn.1.set (offset x y) word, drawn.2 || word == off)

/-- Draw one row, the most significant bit leftmost. -/
def drawRow? (bits : UInt8) (x y : Nat) (drawn : Cells × Bool) : Option (Cells × Bool) :=
  (List.range 8).foldlM (fun drawn column =>
    if bits &&& ((0x80 : UInt8) >>> UInt8.ofNat column) = 0 then some drawn
    else toggle? drawn (x + column) y) drawn

/-- Draw rows from row `y` on. -/
def drawRows? : List UInt8 → Nat → Nat → Cells × Bool → Option (Cells × Bool)
  | [], _, _, drawn => some drawn
  | bits :: rest, x, y, drawn => do drawRows? rest x (y + 1) (← drawRow? bits x y drawn)

/-- Draw a sprite at `(x, y)`: the cells after it, and whether one of them went dark. -/
def draw? (cells : Cells) (sprite : List UInt8) (x y : UInt8) : Option (Cells × Bool) :=
  drawRows? sprite (x.toNat % Grid.width) (y.toNat % Grid.height) (cells, false)

/-- The word that shows a lit or a dark cell. -/
def word (lit : Bool) : UInt32 := if lit then on else off

end Cells

/-- The words that show the cells of a grid. -/
def Grid.words (g : Grid) : Cells := g.cells.toList.map Cells.word

end Chip8
