import Mathlib.Tactic
import Chip8.Terminal.Canvas
import Chip8.Proofs.Picture

/-! A canvas shows exactly the grid that was drawn LAST.

    The points of the lit cells and those of the dark ones are apart and together are the points of
    the screen (`mem_points_append`). So a draw paints every cell, in one colour, and nothing stays
    of what was there before (`tile_draw`). That is so on any canvas that paints a point on the cell
    where it lies; a picture is one (`exact_canvas`). -/

namespace Chip8

/-- Two grids that are lit at the same positions are the same. -/
theorem Grid.eq_of_isLit {g h : Grid}
    (e : ∀ x < Grid.width, ∀ y < Grid.height, g.isLit x y = h.isLit x y) : g = h := by
  refine Grid.ext_lit fun c => ?_
  have hc := c.isLt
  have hcell : Grid.cellAt (c.val % 64) (c.val / 64) = c := by
    apply Fin.ext
    simp only [Grid.cellAt, Grid.width, Grid.height]
    omega
  have hlit := e (c.val % 64) (by simp only [Grid.width]; omega) (c.val / 64)
    (by simp only [Grid.height]; omega)
  rwa [Grid.isLit, Grid.isLit, hcell] at hlit

namespace Terminal

open Picture (points mem_points)
open Canvas (point)

variable {g : Grid} {lit : Bool} {x y : Nat}

/-! ### The points of a grid -/

namespace Picture

theorem point_mem_points_iff (hx : x < Grid.width) (hy : y < Grid.height) :
    point x y ∈ points g lit ↔ g.isLit x y = lit := by
  rw [mem_points]
  constructor
  · rintro ⟨x', hx', y', hy', hlit, heq⟩
    obtain ⟨rfl, rfl⟩ : x = x' ∧ y = y' := by
      simp only [point, Prod.mk.injEq] at heq
      omega
    exact hlit
  · intro hlit
    exact ⟨x, hx, y, hy, hlit, rfl⟩

theorem nodup_points (g : Grid) (lit : Bool) : (points g lit).Nodup := by
  refine List.Nodup.filterMap ?_ List.nodup_range
  intro index index' p h h'
  simp only [Option.mem_def, Option.ite_none_right_eq_some, Option.some.injEq] at h h'
  obtain ⟨-, rfl⟩ := h
  obtain ⟨-, heq⟩ := h'
  simp only [Prod.mk.injEq, Grid.width] at heq
  omega

/-- No point is lit and dark. -/
theorem disjoint_points (g : Grid) : (points g true).Disjoint (points g false) := by
  intro p hlit hdark
  obtain ⟨x, hx, y, hy, htrue, rfl⟩ := mem_points.mp hlit
  have hfalse := (point_mem_points_iff hx hy).mp hdark
  rw [htrue] at hfalse
  cases hfalse

/-- Every point of the screen is lit or dark, and no other point is. -/
theorem mem_points_append {p : Int × Int} : p ∈ points g true ++ points g false ↔
    ∃ x < Grid.width, ∃ y < Grid.height, p = point x y := by
  simp only [List.mem_append, mem_points]
  constructor
  · rintro (⟨x, hx, y, hy, -, rfl⟩ | ⟨x, hx, y, hy, -, rfl⟩) <;> exact ⟨x, hx, y, hy, rfl⟩
  · rintro ⟨x, hx, y, hy, rfl⟩
    cases hlit : g.isLit x y
    · exact .inr ⟨x, hx, y, hy, hlit, rfl⟩
    · exact .inl ⟨x, hx, y, hy, hlit, rfl⟩

end Picture

/-! ### A picture is such a canvas -/

namespace Picture

/-- A point within the bounds of the screen lies as many places from the left and from the top as it
has columns before it and rows above it, the border included. -/
theorem place?_screen_eq (p : Int × Int) : place? View.screen p =
    if 0 ≤ p.1 ∧ p.1 ≤ 63 ∧ -31 ≤ p.2 ∧ p.2 ≤ 0 then some ((p.1 + 1).toNat, (1 - p.2).toNat)
    else none := by
  have hplace : place? View.screen p =
      if 0 ≤ p.1 ∧ p.1 ≤ 63 ∧ -31 ≤ p.2 ∧ p.2 ≤ 0 then
        some (((p.1 - 0) * 63 / 63 + 1).toNat, ((0 - p.2) * 31 / 31 + 1).toNat)
      else none := rfl
  have hcolumn : (p.1 - 0) * 63 / 63 + 1 = p.1 + 1 := by omega
  have hrow : (0 - p.2) * 31 / 31 + 1 = 1 - p.2 := by omega
  rw [hplace, hcolumn, hrow]

theorem place?_screen {p : Int × Int} {column row : Nat} :
    place? View.screen p = some (column, row) ↔
      ∃ x < Grid.width, ∃ y < Grid.height, p = point x y ∧ column = x + 1 ∧ row = y + 1 := by
  rw [place?_screen_eq, Option.ite_none_right_eq_some]
  simp only [Option.some.injEq, point, Prod.ext_iff, Grid.width, Grid.height]
  constructor
  · rintro ⟨hin, hcolumn, hrow⟩
    exact ⟨p.1.toNat, by omega, (-p.2).toNat, by omega, by omega, by omega, by omega⟩
  · rintro ⟨x, hx, y, hy, hp, rfl, rfl⟩
    omega

theorem paint_eq_putAll (p : Picture) (points : List (Int × Int)) (lit : Bool) :
    Canvas.paint View.screen points lit p =
      p.putAll (points.filterMap (place? View.screen)) fun _ => .ofCell lit := by
  show points.foldl (plotIn View.screen (.ofCell lit)) p = _
  rw [putAll, List.foldl_filterMap]
  refine congrArg (fun f => points.foldl f p) (funext fun p => funext fun q => ?_)
  rw [plotIn]
  cases place? View.screen q <;> rfl

theorem exact_canvas : Canvas.Exact Picture := by
  intro s points lit x hx y hy
  have hplace : (x + 1, y + 1) ∈ points.filterMap (place? View.screen) ↔ point x y ∈ points := by
    simp only [List.mem_filterMap, place?_screen]
    constructor
    · rintro ⟨_, hp, x', -, y', -, rfl, hcolumn, hrow⟩
      obtain rfl : x = x' := Nat.succ.inj hcolumn
      obtain rfl : y = y' := Nat.succ.inj hrow
      exact hp
    · intro hp
      exact ⟨_, hp, x, hx, y, hy, rfl, rfl, rfl⟩
  have hin : ∀ q ∈ points.filterMap (place? View.screen), q.1 < width ∧ q.2 < height := by
    rintro ⟨column, row⟩ hq
    obtain ⟨_, -, hq⟩ := List.mem_filterMap.mp hq
    obtain ⟨x, hx, y, hy, -, rfl, rfl⟩ := place?_screen.mp hq
    simp only [Grid.width, Grid.height] at hx hy
    simp only [width, height]
    omega
  rw [paint_eq_putAll]
  refine (tile_putAll ?_ hin s).trans ?_
  · simp only [Grid.width] at hx
    simp only [width]
    omega
  · simp only [hplace]
    rfl

theorem draw_eq_canvas (p : Picture) (g : Grid) : Canvas.draw p g = p.draw g := by
  have hpaint (lit : Bool) (p : Picture) : Canvas.paint View.screen (points g lit) lit p =
      p.paint (points g lit) (.ofCell lit) := by
    refine List.foldl_ext _ _ _ fun p q hq => ?_
    obtain ⟨x, hx, y, hy, -, rfl⟩ := mem_points.mp hq
    simp only [Grid.width, Grid.height] at hx hy
    rw [plotIn, place?_screen_eq, if_pos (by simp only; omega)]
    rfl
  rw [Canvas.draw, hpaint, hpaint]
  rfl

end Picture

/-! ### What is shown -/

namespace Canvas

variable {σ : Type} [Canvas σ]

/-- After a grid is drawn, every cell shows the grid. -/
theorem tile_draw (h : Exact σ) (s : σ) (g : Grid) (hx : x < Grid.width) (hy : y < Grid.height) :
    tile (draw s g) x y = .ofCell (g.isLit x y) := by
  rw [draw, h _ _ _ x hx y hy, h _ _ _ x hx y hy]
  simp only [Picture.point_mem_points_iff hx hy]
  cases g.isLit x y <;> rfl

theorem drawAll_concat (s : σ) (frames : List Grid) (g : Grid) :
    drawAll s (frames ++ [g]) = draw (drawAll s frames) g := by
  simp [drawAll]

theorem drawAll_singleton (s : σ) (g : Grid) : drawAll s [g] = draw s g := rfl

theorem ofCell_inj {a b : Bool} : Tile.ofCell a = Tile.ofCell b ↔ a = b := by
  cases a <;> cases b <;> decide

/-- EXACT: the points of the lit cells and those of the dark ones are the points of the screen, each
once and in one of the two lists. So on a canvas that paints points where they lie, after any grids,
every cell shows the grid that was drawn last, and screens that show different grids differ. -/
theorem canvas_shows_last (h : Exact σ) :
    (∀ g, (points g true).Nodup ∧ (points g false).Nodup ∧
      (points g true).Disjoint (points g false) ∧
      (∀ p, p ∈ points g true ++ points g false ↔
        ∃ x < Grid.width, ∃ y < Grid.height, p = point x y) ∧
      ∀ x < Grid.width, ∀ y < Grid.height, point x y ∈ points g true ↔ g.isLit x y = true) ∧
    (∀ (s : σ) (frames : List Grid) (g : Grid), ∀ x < Grid.width, ∀ y < Grid.height,
      tile (drawAll s (frames ++ [g])) x y = .ofCell (g.isLit x y)) ∧
    ∀ (s s' : σ) (frames frames' : List Grid) (g g' : Grid),
      (∀ x < Grid.width, ∀ y < Grid.height,
        tile (drawAll s (frames ++ [g])) x y = tile (drawAll s' (frames' ++ [g'])) x y) ↔ g = g' := by
  have hshows (s : σ) (frames : List Grid) (g : Grid) (x : Nat) (hx : x < Grid.width) (y : Nat)
      (hy : y < Grid.height) : tile (drawAll s (frames ++ [g])) x y = .ofCell (g.isLit x y) := by
    rw [drawAll_concat, tile_draw h _ g hx hy]
  refine ⟨fun g => ?_, hshows, fun s s' frames frames' g g' => ?_⟩
  · exact ⟨Picture.nodup_points g true, Picture.nodup_points g false, Picture.disjoint_points g,
      fun p => Picture.mem_points_append, fun x hx y hy => Picture.point_mem_points_iff hx hy⟩
  · constructor
    · intro hsame
      refine Grid.eq_of_isLit fun x hx y hy => ofCell_inj.mp ?_
      rw [← hshows s frames g x hx y hy, hsame x hx y hy, hshows s' frames' g' x hx y hy]
    · rintro rfl x hx y hy
      rw [hshows s frames g x hx y hy, hshows s' frames' g x hx y hy]

/-- A picture on which eight cells were lit, and after it another one: that one is lit, and the eight
are dark again. -/
theorem canvas_shows_last_redrawn :
    let before := (Grid.dark.draw [0xff] 0 0).1
    let last := (Grid.dark.draw [0x80] 5 3).1
    Exact Picture ∧ ((Picture.blank.draw before).draw last).tile 6 4 = .lit ∧
      ∀ x < 8, ((Picture.blank.draw before).draw last).tile (x + 1) 1 = .dark := by
  have hshows (before last : Grid) {x y : Nat} (hx : x < Grid.width) (hy : y < Grid.height) :
      ((Picture.blank.draw before).draw last).tile (x + 1) (y + 1) = .ofCell (last.isLit x y) := by
    have h := (canvas_shows_last Picture.exact_canvas).2.1 Picture.blank [before] last x hx y hy
    rw [drawAll_concat, drawAll_singleton, Picture.draw_eq_canvas, Picture.draw_eq_canvas] at h
    exact h
  have hlit : (Grid.dark.draw [0x80] 5 3).1.isLit 5 3 = true := by decide +kernel
  have hdark : ∀ x < 8, (Grid.dark.draw [0x80] 5 3).1.isLit x 0 = false := by decide +kernel
  refine ⟨Picture.exact_canvas, ?_, fun x hx => ?_⟩
  · rw [hshows _ _ (x := 5) (y := 3) (by decide) (by decide), hlit]
    rfl
  · rw [hshows _ _ (x := x) (y := 0) (Nat.lt_of_lt_of_le hx (by decide)) (by decide), hdark x hx]
    rfl

end Canvas

end Terminal

end Chip8
