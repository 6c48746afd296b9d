import DemoReel.Canvas.Basic

/-!
# Painting in place

A quad is painted over the very pixels that its blending reads, row by row. No pixel is read after
it was written, because no two pixels stand in the same place (`place_inj`): each pixel is painted
from what was there before, and pixels that the quad does not cover keep their color
(`pixel?_composite`). The ways to get at a texture make no difference
(`Canvas.draw_of_not_isEmpty`). Main statement: what drawing a quad does to a canvas can be told
pixel by pixel from the canvas before, whatever the quad takes its texels from
(`Canvas.drawn_draw`).
-/

namespace DemoReel

open Number

namespace Surface

/-! ## Places -/

/-- Different pixels stand in different places. -/
theorem place_inj {width x y x' y' : Nat} (hx : x < width) (hx' : x' < width)
    (h : place width x y = place width x' y') : x = x' ∧ y = y' := by
  unfold place at h
  have hcolumn := congrArg (· % width) h
  have hrow := congrArg (· / width) h
  simp only [Nat.mul_comm _ width, Nat.mul_add_mod, Nat.mod_eq_of_lt hx,
    Nat.mod_eq_of_lt hx'] at hcolumn
  have hpos : 0 < width := Nat.zero_lt_of_lt hx
  simp only [Nat.mul_comm _ width, Nat.mul_add_div hpos, Nat.div_eq_of_lt hx,
    Nat.div_eq_of_lt hx', Nat.add_zero] at hrow
  exact ⟨hcolumn, hrow⟩

/-- What holds before a loop and is carried on by each of its rounds holds behind it. -/
theorem fold_induction {α : Type} {n : Nat} {f : (i : Nat) → i < n → α → α} {a : α}
    (P : Nat → α → Prop) (start : P 0 a)
    (round : ∀ (i : Nat) (h : i < n) (a : α), P i a → P (i + 1) (f i h a)) :
    P n (n.fold f a) := by
  induction n with
  | zero => exact start
  | succ n ih =>
    rw [Nat.fold_succ]
    exact round n (Nat.lt_succ_self n) _ (ih fun i h => round i (Nat.lt_succ_of_lt h))

/-! ## One quad on one surface -/

section

variable {width height : Nat} {q : Quad} {texture : Option Surface}
  {pixels done : Vector Color (width * height)} {on on' : Nat → Nat → Prop} {x y x' y' : Nat}

/-- The color of the pixel in column `x` and row `y`. -/
def colorAt (pixels : Vector Color (width * height)) (hx : x < width) (hy : y < height) : Color :=
  have h := place_lt hx hy
  pixels[place width x y]

theorem colorAt_paintPixel_self (hx : x < width) (hy : y < height) :
    colorAt (paintPixel q texture x y hx hy pixels) hx hy =
      shade q texture (center width height x y) (colorAt pixels hx hy) :=
  Vector.getElem_set_self (place_lt hx hy)

theorem colorAt_paintPixel_of_ne (hx : x < width) (hy : y < height) (hx' : x' < width)
    (hy' : y' < height) (h : ¬ (x' = x ∧ y' = y)) :
    colorAt (paintPixel q texture x y hx hy pixels) hx' hy' = colorAt pixels hx' hy' := by
  refine Vector.getElem_set_ne (place_lt hx hy) (place_lt hx' hy') fun hplace => h ?_
  obtain ⟨rfl, rfl⟩ := place_inj hx hx' hplace
  exact ⟨rfl, rfl⟩

/-- How far painting has come: of `pixels` those in `on` have been shaded, each from its own color,
and the others are as they were. -/
structure Painted (q : Quad) (texture : Option Surface)
    (pixels done : Vector Color (width * height)) (on : Nat → Nat → Prop) : Prop where
  shaded : ∀ {x y : Nat} (hx : x < width) (hy : y < height), on x y →
    colorAt done hx hy = shade q texture (center width height x y) (colorAt pixels hx hy)
  kept : ∀ {x y : Nat} (hx : x < width) (hy : y < height), ¬ on x y →
    colorAt done hx hy = colorAt pixels hx hy

namespace Painted

theorem start (h : ∀ x y, ¬ on x y) : Painted q texture pixels pixels on :=
  ⟨fun _ _ hon => absurd hon (h _ _), fun _ _ _ => rfl⟩

theorem congr (h : Painted q texture pixels done on)
    (hiff : ∀ x y, x < width → y < height → (on x y ↔ on' x y)) :
    Painted q texture pixels done on' :=
  ⟨fun hx hy hon => h.shaded hx hy ((hiff _ _ hx hy).2 hon),
    fun hx hy hoff => h.kept hx hy fun hon => hoff ((hiff _ _ hx hy).1 hon)⟩

/-- A pixel that has not been painted yet is shaded from the color that it had before. -/
theorem pixel (h : Painted q texture pixels done on) (hx : x < width) (hy : y < height)
    (hoff : ¬ on x y) :
    Painted q texture pixels (paintPixel q texture x y hx hy done)
      fun x' y' => on x' y' ∨ x' = x ∧ y' = y := by
  refine ⟨fun {x' y'} hx' hy' hon => ?_, fun hx' hy' hon => ?_⟩
  · by_cases hsame : x' = x ∧ y' = y
    · obtain ⟨rfl, rfl⟩ := hsame
      rw [colorAt_paintPixel_self, h.kept hx hy hoff]
    · rw [colorAt_paintPixel_of_ne hx hy hx' hy' hsame]
      exact h.shaded hx' hy' (hon.resolve_right hsame)
  · rw [colorAt_paintPixel_of_ne hx hy hx' hy' fun hsame => hon (.inr hsame)]
    exact h.kept hx' hy' fun hold => hon (.inl hold)

/-- A row that has not been begun is shaded wherever the quad spans its columns. -/
theorem row (h : Painted q texture pixels done on) (hy : y < height)
    (hoff : ∀ x, ¬ on x y) :
    Painted q texture pixels (paintRow q texture y hy done)
      fun x' y' => on x' y' ∨ y' = y ∧ q.spansColumn (columnCenter width x') := by
  -- What has been painted when the first `n` columns of the row are done.
  let upTo (n x' y' : Nat) : Prop :=
    on x' y' ∨ y' = y ∧ x' < n ∧ q.spansColumn (columnCenter width x')
  have hall : Painted q texture pixels (paintRow q texture y hy done) (upTo width) := by
    refine fold_induction (fun n done => Painted q texture pixels done (upTo n)) ?_ ?_
    · exact h.congr fun x' y' _ _ => by simp [upTo]
    · intro n hn done hdone
      have hnow : ¬ upTo n n y := by simp [upTo, hoff n]
      have hsplit (x' : Nat) : x' < n + 1 ↔ x' < n ∨ x' = n := by omega
      split
      · next hspans =>
        refine (hdone.pixel hn hy hnow).congr fun x' y' _ _ => ?_
        grind
      · next hspans =>
        refine hdone.congr fun x' y' _ _ => ?_
        grind
  refine hall.congr fun x' y' hx' _ => ?_
  grind

end Painted

/-- When all rows are done, every pixel that the quad covers has been shaded. -/
theorem painted_paint (q : Quad) (texture : Option Surface)
    (pixels : Vector Color (width * height)) :
    Painted q texture pixels (paint q texture pixels)
      fun x y => q.covers (center width height x y) := by
  let upTo (n x y : Nat) : Prop := y < n ∧ q.covers (center width height x y)
  have hall : Painted q texture pixels (paint q texture pixels) (upTo height) := by
    refine fold_induction (fun n done => Painted q texture pixels done (upTo n)) ?_ ?_
    · exact .start fun x y h => Nat.not_lt_zero y h.1
    · intro n hn done hdone
      have hnow (x : Nat) : ¬ upTo n x n := fun h => Nat.lt_irrefl n h.1
      have hcovers (x y : Nat) : q.covers (center width height x y) = true ↔
          q.spansColumn (columnCenter width x) = true ∧ q.spansRow (rowCenter height y) = true := by
        rw [Quad.covers, Bool.and_eq_true]
        exact Iff.rfl
      split
      · next hspans =>
        refine (hdone.row hn hnow).congr fun x y _ _ => ?_
        grind
      · next hspans =>
        refine hdone.congr fun x y _ _ => ?_
        grind
  exact hall.congr fun x y _ hy => and_iff_right hy

end

/-- What becomes of the color `old` of the pixel in column `x` and row `y`. -/
def repaint (q : Quad) (texture : Option Surface) (width height x y : Nat) (old : Color) : Color :=
  let p := center width height x y
  if q.covers p then shade q texture p old else old

theorem pixel?_eq_some {s : Surface} {x y : Nat} (hx : x < s.width) (hy : y < s.height) :
    s.pixel? x y = some (colorAt ⟨s.pixels, s.size_eq⟩ hx hy) := by
  rw [pixel?, if_pos ⟨hx, hy⟩]
  exact Array.getElem?_eq_getElem _

theorem pixel?_eq_none {s : Surface} {x y : Nat} (h : ¬ (x < s.width ∧ y < s.height)) :
    s.pixel? x y = none := if_neg h

theorem pixel?_composite (s : Surface) (q : Quad) (texture : Option Surface) (x y : Nat) :
    (s.composite q texture).pixel? x y =
      (s.pixel? x y).map (repaint q texture s.width s.height x y) := by
  by_cases h : x < s.width ∧ y < s.height
  · obtain ⟨hx, hy⟩ := h
    rw [pixel?_eq_some hx hy, pixel?_eq_some (s := s.composite q texture) hx hy]
    have hpainted := painted_paint q texture ⟨s.pixels, s.size_eq⟩
    refine congrArg some ?_
    unfold repaint
    dsimp only
    split
    · next hcovers => exact hpainted.shaded hx hy hcovers
    · next hcovers => exact hpainted.kept hx hy hcovers
  · rw [pixel?_eq_none h, pixel?_eq_none (s := s.composite q texture) h]
    rfl

/-- The color of the pixel that a position falls on, or of the pixel nearest to it; white where
there are no pixels. -/
def nearest (s : Surface) (p : Point) : Color :=
  let x := max 0 (min (truncInt64 (p.x * binary32OfNat s.width)) ((s.width : Int) - 1))
  let y := max 0 (min (truncInt64 ((1 - p.y) * binary32OfNat s.height)) ((s.height : Int) - 1))
  (s.pixel? x.toNat y.toNat).getD .white

theorem cell_eq {count : Nat} (h : 0 < count) (position : Float32) : cell count position =
    (max 0 (min (truncInt64 (position * binary32OfNat count)) ((count : Int) - 1))).toNat := by
  unfold cell clamp
  congr 1
  split
  · omega
  · split <;> omega

theorem sample_eq_nearest (s : Surface) (p : Point) : s.sample p = s.nearest p := by
  unfold sample nearest
  dsimp only
  by_cases h : 0 < s.pixels.size
  · have hw : 0 < s.width := Nat.pos_of_mul_pos_right (s.size_eq ▸ h)
    have hh : 0 < s.height := Nat.pos_of_mul_pos_left (s.size_eq ▸ h)
    rw [dif_pos h, ← cell_eq hw, ← cell_eq hh, pixel?_eq_some (cell_lt hw _) (cell_lt hh _)]
    rfl
  · rw [dif_neg h, pixel?_eq_none]
    · rfl
    · rintro ⟨hx, hy⟩
      rw [s.size_eq] at h
      exact h (Nat.mul_pos (Nat.zero_lt_of_lt hx) (Nat.zero_lt_of_lt hy))

end Surface

/-! ## One quad on a canvas -/

namespace Canvas

@[simp] theorem surface_setSurface_self (c : Canvas) (t : Target) (s : Surface) :
    (c.setSurface t s).surface t = s := Vector.getElem_set_self _

theorem surface_setSurface_of_ne (c : Canvas) {t t' : Target} (h : t' ≠ t) (s : Surface) :
    (c.setSurface t s).surface t' = c.surface t' :=
  Vector.getElem_set_ne t.slot.isLt t'.slot.isLt fun hslot =>
    h (Target.slot_injective (Fin.ext hslot)).symm

/-- What a quad samples; a handle that was never given out stands for nothing. -/
def textureSurface? (c : Canvas) : Texture → Option Surface
  | .target t => some (c.surface t)
  | .loaded id => c.textures[id.index.toNat]?

/-- The color that a texture has at a position: that of the nearest pixel, and white where there is
no such texture or nothing on it. -/
def texel (c : Canvas) (p : Point) : Option Texture → Color
  | none => ⟨1, 1, 1, 1⟩
  | some (.target t) => (c.surface t).nearest p
  | some (.loaded id) =>
    match c.textures[id.index.toNat]? with
    | none => ⟨1, 1, 1, 1⟩
    | some s => s.nearest p

/-- What a quad makes of the color `old` at `p` on a canvas: the complement of it, or a mixture with
the color of the quad and of its texture, which is stretched from corner to corner. -/
def blended (c : Canvas) (q : Quad) (p : Point) (old : Color) : Color :=
  match q.blend with
  | .invert => ⟨1 - old.red, 1 - old.green, 1 - old.blue, old.alpha⟩
  | .alpha =>
    let u := (p.x - q.min.x) / (q.max.x - q.min.x)
    let v := (p.y - q.min.y) / (q.max.y - q.min.y)
    let t := c.texel ⟨u, v⟩ q.texture
    let a := q.color.alpha * t.alpha
    let a := if a < 0 then 0 else if 1 < a then 1 else a
    { red := q.color.red * t.red * a + old.red * (1 - a)
      green := q.color.green * t.green * a + old.green * (1 - a)
      blue := q.color.blue * t.blue * a + old.blue * (1 - a)
      alpha := a + old.alpha * (1 - a) }

theorem texel_eq (c : Canvas) (p : Point) (texture : Option Texture) :
    c.texel p texture = ((texture.bind c.textureSurface?).map (·.sample p)).getD .white := by
  match texture with
  | none => rfl
  | some (.target t) => exact (Surface.sample_eq_nearest _ p).symm
  | some (.loaded id) =>
    simp only [texel, Option.bind_some, textureSurface?]
    cases c.textures[id.index.toNat]? with
    | none => rfl
    | some s => exact (Surface.sample_eq_nearest _ p).symm

theorem shade_eq_blended (c : Canvas) (q : Quad) (p : Point) (old : Color) :
    Surface.shade q (q.texture.bind c.textureSurface?) p old = c.blended q p old := by
  unfold Surface.shade blended
  cases q.blend with
  | invert => rfl
  | alpha =>
    simp only [texel_eq]
    rfl

end Canvas

theorem Quad.isEmpty_fullscreen (color : Color) : (fullscreen color).isEmpty = false := by
  show (decide ((1 : Float32) ≤ 0) || decide ((1 : Float32) ≤ 0)) = false
  decide +kernel

/-- The quad has an area, and the point is not outside its corners. -/
structure Quad.Reaches (q : Quad) (p : Point) : Prop where
  wide : ¬ q.max.x ≤ q.min.x
  high : ¬ q.max.y ≤ q.min.y
  column : ¬ (p.x < q.min.x ∨ q.max.x < p.x)
  row : ¬ (p.y < q.min.y ∨ q.max.y < p.y)

theorem Quad.reaches_iff {q : Quad} {p : Point} :
    q.Reaches p ↔ q.isEmpty = false ∧ q.covers p = true := by
  have hempty : q.isEmpty = false ↔ ¬ q.max.x ≤ q.min.x ∧ ¬ q.max.y ≤ q.min.y := by
    simp [isEmpty]
  have hcovers : q.covers p = true ↔
      ¬ (p.x < q.min.x ∨ q.max.x < p.x) ∧ ¬ (p.y < q.min.y ∨ q.max.y < p.y) := by
    simp [covers, spansColumn, spansRow]
  rw [hempty, hcovers]
  exact ⟨fun ⟨hw, hh, hc, hr⟩ => ⟨⟨hw, hh⟩, hc, hr⟩, fun ⟨⟨hw, hh⟩, hc, hr⟩ => ⟨hw, hh, hc, hr⟩⟩

namespace Canvas

/-- The center of a pixel of the bound target, in the unit square. -/
def pixelCenter (c : Canvas) (x y : Nat) : Point where
  x := (binary32OfNat x + 0.5) / binary32OfNat (c.surface c.bound).width
  y := 1 - (binary32OfNat y + 0.5) / binary32OfNat (c.surface c.bound).height

/-- `c'` is `c` after `q` has been drawn. Whatever `c'` shows is told from `c` alone. -/
structure Drawn (c : Canvas) (q : Quad) (c' : Canvas) : Prop where
  /-- A pixel whose center the quad reaches is blended with the color that it had. -/
  reached : ∀ {x y old}, c.pixel? c.bound x y = some old →
    let p := c.pixelCenter x y
    q.Reaches p → c'.pixel? c.bound x y = some (c.blended q p old)
  /-- All other pixels of the bound target keep their color. -/
  unreached : ∀ {x y}, ¬ q.Reaches (c.pixelCenter x y) →
    c'.pixel? c.bound x y = c.pixel? c.bound x y
  size : (c'.surface c.bound).width = (c.surface c.bound).width ∧
    (c'.surface c.bound).height = (c.surface c.bound).height
  /-- All other targets keep their surface. -/
  others : ∀ {t}, t ≠ c.bound → c'.surface t = c.surface t
  /-- A quad without area leaves the bound target alone, too. -/
  empty : q.max.x ≤ q.min.x ∨ q.max.y ≤ q.min.y → c'.surfaces = c.surfaces
  /-- Apart from the surfaces there is one quad more on the count, and that is all. -/
  rest : c' = { c with surfaces := c'.surfaces, quadsDrawn := c.quadsDrawn + 1 }

theorem draw_of_isEmpty (c : Canvas) {q : Quad} (h : q.isEmpty = true) :
    c.draw q = { c with quadsDrawn := c.quadsDrawn + 1 } := if_pos h

/-- Cutting the row changes one element and no other. -/
theorem setFrom_eq {α : Type} {n : Nat} (row : Vector α n) {write read : Fin n}
    (h : write ≠ read) (f : α → α → α) :
    setFrom row write read h f = row.set write (f row[write] row[read]) := by
  ext i hi
  have hwrite := write.isLt
  have hread := read.isLt
  unfold setFrom
  split
  · next hlt =>
    simp only [Vector.getElem_cast, Vector.getElem_append, Vector.getElem_set, Vector.getElem_take,
      Vector.getElem_drop]
    by_cases hlow : i < min read.val n
    · rw [dif_pos hlow]
      rfl
    · have hplace : read.val + (i - min read.val n) = i := by omega
      have hne : write.val ≠ i := by omega
      rw [dif_neg hlow, if_neg hne]
      simp only [hplace]
  · next hge =>
    simp only [Vector.getElem_cast, Vector.getElem_append, Vector.getElem_set, Vector.getElem_take,
      Vector.getElem_drop]
    by_cases hlow : i < min write.val n
    · have hne : write.val ≠ i := by omega
      rw [dif_pos hlow, if_neg hne]
    · have hplace : write.val + (i - min write.val n) = i := by omega
      have hhere : 0 = i - min write.val n ↔ write.val = i := by omega
      rw [dif_neg hlow]
      simp only [hplace, hhere]
      rfl

/-- However a quad gets at its texture, it is painted with the surface that the texture stood for
before. -/
theorem draw_of_not_isEmpty (c : Canvas) {q : Quad} (h : q.isEmpty = false) :
    c.draw q = { c.setSurface c.bound ((c.surface c.bound).composite q
      (q.texture.bind c.textureSurface?)) with quadsDrawn := c.quadsDrawn + 1 } := by
  unfold draw
  dsimp only
  rw [if_neg (by simp [h])]
  split
  · next htexture => rw [htexture]; rfl
  · next id htexture => rw [htexture]; rfl
  · next t htexture =>
    rw [htexture]
    split
    · next hself => rw [hself]; rfl
    · next hother => rw [setFrom_eq]; rfl

@[simp] theorem bound_draw (c : Canvas) (q : Quad) : (c.draw q).bound = c.bound := by
  cases hempty : q.isEmpty with
  | true => rw [draw_of_isEmpty c hempty]
  | false => rw [draw_of_not_isEmpty c hempty]; rfl

/-- Drawing changes no surface but that of the bound target. -/
theorem surface_draw_of_ne (c : Canvas) (q : Quad) {t : Target} (h : t ≠ c.bound) :
    (c.draw q).surface t = c.surface t := by
  cases hempty : q.isEmpty with
  | true => rw [draw_of_isEmpty c hempty]; rfl
  | false =>
    rw [draw_of_not_isEmpty c hempty]
    exact surface_setSurface_of_ne c h _

theorem surface_draw_self (c : Canvas) {q : Quad} (h : q.isEmpty = false) :
    (c.draw q).surface c.bound =
      (c.surface c.bound).composite q (q.texture.bind c.textureSurface?) := by
  rw [draw_of_not_isEmpty c h]
  exact surface_setSurface_self c c.bound _

/-- Without a texture the whole surface is filled with one color. -/
theorem surface_draw_fullscreen (c : Canvas) (color : Color) :
    (c.draw (.fullscreen color)).surface c.bound =
      (c.surface c.bound).composite (.fullscreen color) none :=
  surface_draw_self c (Quad.isEmpty_fullscreen color)

/-- A quad that samples the very target that it is drawn on sees it as it was, too. -/
theorem drawn_draw (c : Canvas) (q : Quad) : Drawn c q (c.draw q) := by
  cases hempty : q.isEmpty with
  | true =>
    have hunreached (p : Point) : ¬ q.Reaches p := fun h => by
      rw [(Quad.reaches_iff.1 h).1] at hempty
      cases hempty
    rw [draw_of_isEmpty c hempty]
    exact ⟨fun _ h => absurd h (hunreached _), fun _ => rfl, ⟨rfl, rfl⟩, fun _ => rfl,
      fun _ => rfl, rfl⟩
  | false =>
    have hself := surface_draw_self c hempty
    have hpixel (x y : Nat) : (c.draw q).pixel? c.bound x y = (c.pixel? c.bound x y).map fun old =>
        if q.covers (c.pixelCenter x y) then c.blended q (c.pixelCenter x y) old else old := by
      have hrepaint : Surface.repaint q (q.texture.bind c.textureSurface?)
          (c.surface c.bound).width (c.surface c.bound).height x y = fun old =>
            if q.covers (c.pixelCenter x y) then c.blended q (c.pixelCenter x y) old else old := by
        funext old
        rw [← shade_eq_blended]
        rfl
      rw [pixel?, hself, Surface.pixel?_composite, hrepaint]
      rfl
    refine ⟨fun {x y old} hold hreaches => ?_, fun {x y} hunreached => ?_, ?_,
      surface_draw_of_ne c q, fun harea => ?_, ?_⟩
    · obtain ⟨-, hcovers⟩ := Quad.reaches_iff.1 hreaches
      rw [hpixel, hold, Option.map_some, if_pos hcovers]
    · have hcovers := fun h => hunreached (Quad.reaches_iff.2 ⟨hempty, h⟩)
      simp only [hpixel, if_neg hcovers, Option.map_id']
    · rw [hself]
      exact ⟨rfl, rfl⟩
    · have hisEmpty : q.isEmpty = true := by simpa [Quad.isEmpty] using harea
      rw [hempty] at hisEmpty
      cases hisEmpty
    · rw [draw_of_not_isEmpty c hempty]
      rfl

/-- The left half takes the picture that it is drawn on as its texture: its one pixel shows what the
right pixel shows. -/
example :
    let half (color : Color) (texture : Option Texture) : Quad :=
      { Quad.fullscreen color with max := ⟨0.5, 1⟩, texture }
    let c := ((ofSize 2 1).draw (.fullscreen ⟨0, 0, 1, 1⟩)).draw (half ⟨1, 0, 0, 1⟩ none)
    let c' := c.draw (half .white (some (.target .framebuffer)))
    (c.pixel? .framebuffer 0 0, c.pixel? .framebuffer 1 0) =
        (some ⟨1, 0, 0, 1⟩, some ⟨0, 0, 1, 1⟩) ∧
      (c'.pixel? .framebuffer 0 0, c'.pixel? .framebuffer 1 0) =
        (some ⟨0, 0, 1, 1⟩, some ⟨0, 0, 1, 1⟩) := by
  decide +kernel

end Canvas

end DemoReel
