import Mathlib.Tactic
import Chip8.Terminal.Picture

/-! A picture that a grid was drawn on SHOWS the grid, and nothing of what it showed before.

    To draw is to put tiles at places, one after the other, and a place keeps what was put there last
    (`tile_put`). So what a list of places does to the picture is told by which places are in it
    (`tile_putAll`). The border has the places at the edge; the canvas points of the dark cells and
    of the lit ones have the other places between them (`mem_points`). -/

namespace Chip8.Terminal.Picture

variable {p : Picture} {g : Grid} {column row : Nat}

/-! ### Tiles that are put at places -/

theorem tile_put (p : Picture) (t : Tile) {column' row' : Nat} (h : column < width)
    (h' : column' < width) (hrow' : row' < height) :
    (p.put column' row' t).tile column row =
      if (column, row) = (column', row') then t else p.tile column row := by
  simp only [width, height] at h h' hrow'
  have hin : row' * 66 + column' < 2244 := by omega
  rw [tile, put, tile]
  by_cases he : (column, row) = (column', row')
  · obtain ⟨rfl, rfl⟩ := Prod.mk.inj he
    simp [hin]
  · have hne : row' * 66 + column' ≠ row * 66 + column := by
      intro e
      exact he (Prod.ext (by simp only; omega) (by simp only; omega))
    rw [if_neg he, Vector.getElem?_setIfInBounds_ne hne]

/-- Put a tile at each of some places. -/
def putAll (p : Picture) (places : List (Nat × Nat)) (t : Nat × Nat → Tile) : Picture :=
  places.foldl (fun p place => p.put place.1 place.2 (t place)) p

/-- A place shows what was put there, or what it showed before. -/
theorem tile_putAll {places : List (Nat × Nat)} {t : Nat × Nat → Tile} (h : column < width)
    (hin : ∀ place ∈ places, place.1 < width ∧ place.2 < height) (p : Picture) :
    (p.putAll places t).tile column row =
      if (column, row) ∈ places then t (column, row) else p.tile column row := by
  induction places generalizing p with
  | nil => simp [putAll]
  | cons place rest ih =>
    obtain ⟨hplace, hrest⟩ := List.forall_mem_cons.mp hin
    show ((p.put place.1 place.2 (t place)).putAll rest t).tile column row = _
    rw [ih hrest, tile_put p (t place) h hplace.1 hplace.2]
    by_cases he : (column, row) = place
    · subst he
      simp
    · simp [he]

/-! ### The border -/

theorem mem_border : (column, row) ∈ border ↔
    column < width ∧ row < height ∧ onBorder column row = true := by
  simp only [border, List.mem_flatMap, List.mem_map, List.mem_filter, List.mem_range,
    Prod.mk.injEq]
  constructor
  · rintro ⟨row, hrow, column, ⟨hcolumn, hb⟩, rfl, rfl⟩
    exact ⟨hcolumn, hrow, hb⟩
  · rintro ⟨hcolumn, hrow, hb⟩
    exact ⟨row, hrow, column, ⟨hcolumn, hb⟩, rfl, rfl⟩

theorem tile_withBorder (p : Picture) (h : column < width) (hrow : row < height) :
    p.withBorder.tile column row =
      if onBorder column row then .text (borderChar column row) else p.tile column row := by
  have hin : ∀ place ∈ border, place.1 < width ∧ place.2 < height := by
    rintro ⟨column, row⟩ hplace
    have hplace := mem_border.mp hplace
    exact ⟨hplace.1, hplace.2.1⟩
  have hput : p.withBorder = p.putAll border fun place => .text (borderChar place.1 place.2) := rfl
  rw [hput, tile_putAll h hin]
  simp [mem_border, h, hrow]

/-! ### The cells -/

/-- The points of the lit cells, or of the dark ones, are theirs alone. -/
theorem mem_points {lit : Bool} {point : Int × Int} : point ∈ points g lit ↔
    ∃ x < Grid.width, ∃ y < Grid.height, g.isLit x y = lit ∧ point = ((x : Int), -(y : Int)) := by
  simp only [points, List.mem_filterMap, List.mem_range, Option.ite_none_right_eq_some,
    Option.some.injEq, Grid.width, Grid.height]
  constructor
  · rintro ⟨index, hindex, hlit, rfl⟩
    exact ⟨index % 64, by omega, index / 64, by omega, hlit, rfl⟩
  · rintro ⟨x, hx, y, hy, hlit, rfl⟩
    have hcolumn : (64 * y + x) % 64 = x := by omega
    have hrow : (64 * y + x) / 64 = y := by omega
    exact ⟨64 * y + x, by omega, by rw [hcolumn, hrow]; exact hlit, by rw [hcolumn, hrow]⟩

/-- The place of a canvas point. -/
def place (point : Int × Int) : Nat × Nat := ((point.1 + 1).toNat, (1 - point.2).toNat)

theorem mem_places {lit : Bool} : (column, row) ∈ (points g lit).map place ↔
    (0 < column ∧ column ≤ Grid.width ∧ 0 < row ∧ row ≤ Grid.height) ∧
      g.isLit (column - 1) (row - 1) = lit := by
  simp only [List.mem_map, mem_points, Grid.width, Grid.height]
  constructor
  · rintro ⟨point, ⟨x, hx, y, hy, hlit, rfl⟩, hplace⟩
    obtain ⟨rfl, rfl⟩ : column = x + 1 ∧ row = y + 1 := by
      simp only [place, Prod.mk.injEq] at hplace
      omega
    exact ⟨by omega, hlit⟩
  · rintro ⟨hin, hlit⟩
    refine ⟨_, ⟨column - 1, by omega, row - 1, by omega, hlit, rfl⟩, ?_⟩
    simp only [place, Prod.mk.injEq]
    omega

theorem tile_paint (p : Picture) (g : Grid) (lit : Bool) (t : Tile) (h : column < width) :
    (p.paint (points g lit) t).tile column row =
      if (column, row) ∈ (points g lit).map place then t else p.tile column row := by
  have hin : ∀ q ∈ (points g lit).map place, q.1 < width ∧ q.2 < height := by
    rintro ⟨column, row⟩ hq
    have hq := (mem_places.mp hq).1
    simp only [Grid.width, Grid.height, width, height] at hq ⊢
    omega
  have hput : p.paint (points g lit) t = p.putAll ((points g lit).map place) fun _ => t := by
    rw [putAll, List.foldl_map]
    rfl
  rw [hput, tile_putAll h hin]

/-! ### Drawing -/

/-- A grid is shown over whatever was shown before. -/
theorem shows_draw (p : Picture) (g : Grid) : (p.draw g).Shows g := by
  intro column h row hrow
  rw [draw, tile_paint _ _ _ _ h, tile_paint _ _ _ _ h, tile_withBorder p h hrow]
  simp only [mem_places, tileOf]
  by_cases hb : onBorder column row = true
  · -- no cell lies on the border
    have hout : ¬ (0 < column ∧ column ≤ Grid.width ∧ 0 < row ∧ row ≤ Grid.height) := by
      simp only [onBorder, Bool.or_eq_true, beq_iff_eq] at hb
      simp only [width, height, Grid.width, Grid.height] at hb ⊢
      omega
    simp [hb, hout]
  · have hinside : 0 < column ∧ column ≤ Grid.width ∧ 0 < row ∧ row ≤ Grid.height := by
      simp only [onBorder, Bool.or_eq_true, beq_iff_eq] at hb
      simp only [width, height, Grid.width, Grid.height] at h hrow hb ⊢
      omega
    cases hlit : g.isLit (column - 1) (row - 1) <;> simp [hb, hinside]

end Chip8.Terminal.Picture
