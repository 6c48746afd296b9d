import DemoReel.Proofs.Canvas.Painting

/-!
# Calls to a canvas

A call clears the bound surface, draws on it, or leaves all surfaces alone (`call_cases`); no call
touches a surface that is not bound (`surface_call_of_ne`). Main statement: on a canvas of whatever
size, whatever has been asked of it, the five surfaces keep their size, and everything that is
painted, sampled or captured is found where it is looked up (`Canvas.serve_inRange`).
-/

namespace DemoReel.Canvas

/-! ## What a call can do -/

theorem exists_loadTexture [Image.Library] (p : Path) (w : World Canvas) : ∃ textures texturePaths,
    (loadTexture p w).2.gfx = { w.gfx with textures, texturePaths } := by
  unfold loadTexture
  split
  · exact ⟨_, _, rfl⟩
  · split
    · exact ⟨_, _, rfl⟩
    · exact ⟨_, _, rfl⟩

theorem exists_loadShader (p : Path) (stage : ShaderStage) (w : World Canvas) :
    ∃ shaders, (loadShader p stage w).2.gfx = { w.gfx with shaders } := by
  unfold loadShader
  split
  · exact ⟨_, rfl⟩
  · split
    · exact ⟨_, rfl⟩
    · exact ⟨_, rfl⟩

/-- A call clears the bound surface, draws on it, or does nothing to surfaces. -/
theorem call_cases [Image.Library] (w : World Canvas) (c : Call) :
    (c = .clear ∧ (w.call c).2.gfx = w.gfx.clear) ∨
    (∃ q, c = .draw q ∧ (w.call c).2.gfx = w.gfx.draw q) ∨
    ∃ bound textures texturePaths shaders framesPresented, (w.call c).2.gfx =
      { w.gfx with bound, textures, texturePaths, shaders, framesPresented } := by
  cases c with
  | clear => exact .inl ⟨rfl, rfl⟩
  | draw q => exact .inr (.inl ⟨q, rfl, rfl⟩)
  | clearDepth => exact .inr (.inr ⟨_, _, _, _, _, rfl⟩)
  | bind t => exact .inr (.inr ⟨t, _, _, _, _, rfl⟩)
  | reset => exact .inr (.inr ⟨.framebuffer, _, _, _, _, rfl⟩)
  | present => exact .inr (.inr ⟨_, _, _, _, w.gfx.framesPresented + 1, rfl⟩)
  | loadTexture p =>
    obtain ⟨textures, texturePaths, h⟩ := exists_loadTexture p w
    exact .inr (.inr ⟨_, textures, texturePaths, _, _, h⟩)
  | loadShader p stage =>
    obtain ⟨shaders, h⟩ := exists_loadShader p stage w
    exact .inr (.inr ⟨_, _, _, shaders, _, h⟩)
  | capture p => exact .inr (.inr ⟨_, _, _, _, _, rfl⟩)

/-- Only clearing and drawing change surfaces. -/
theorem surfaces_call [Image.Library] (w : World Canvas) {c : Call} (hclear : c ≠ .clear)
    (hdraw : ∀ q, c ≠ .draw q) : (w.call c).2.gfx.surfaces = w.gfx.surfaces := by
  rcases call_cases w c with ⟨rfl, -⟩ | ⟨q, rfl, -⟩ | ⟨_, _, _, _, _, h⟩
  · exact absurd rfl hclear
  · exact absurd rfl (hdraw q)
  · rw [h]

/-- What is not bound is not touched. -/
theorem surface_call_of_ne [Image.Library] (w : World Canvas) (c : Call) {t : Target}
    (h : t ≠ w.gfx.bound) : (w.call c).2.gfx.surface t = w.gfx.surface t := by
  rcases call_cases w c with ⟨-, heq⟩ | ⟨q, -, heq⟩ | ⟨_, _, _, _, _, heq⟩
  · rw [heq]
    exact surface_setSurface_of_ne _ h _
  · rw [heq]
    exact surface_draw_of_ne _ q h
  · rw [heq]
    rfl

theorem surface_drawAll [Image.Library] (qs : List Quad) {w : World Canvas} {t : Target}
    (h : t ≠ w.gfx.bound) : (w.drawAll qs).gfx.surface t = w.gfx.surface t := by
  induction qs generalizing w with
  | nil => rfl
  | cons q qs ih =>
    have hbound : (w.after (.draw q)).gfx.bound = w.gfx.bound := bound_draw w.gfx q
    rw [World.drawAll_cons, ih (hbound ▸ h)]
    exact surface_call_of_ne w (.draw q) h

/-! ## Sizes -/

/-- The canvas and its five surfaces have one size. -/
structure Sized (width height : Nat) (c : Canvas) : Prop where
  width_eq : c.width = width
  height_eq : c.height = height
  surface : ∀ t, (c.surface t).width = width ∧ (c.surface t).height = height

theorem sized_ofSize (width height : Nat) :
    (ofSize width height).Sized (max width 1) (max height 1) := by
  refine ⟨rfl, rfl, fun t => ?_⟩
  have hsurface : (ofSize width height).surface t =
      .filled (max width 1) (max height 1) .black := Vector.getElem_replicate t.slot.isLt
  rw [hsurface]
  exact ⟨rfl, rfl⟩

namespace Sized

variable {width height : Nat} {c : Canvas}

theorem setSurface (h : c.Sized width height) (t : Target) {s : Surface}
    (hs : s.width = (c.surface t).width ∧ s.height = (c.surface t).height) :
    (c.setSurface t s).Sized width height := by
  refine ⟨h.width_eq, h.height_eq, fun t' => ?_⟩
  by_cases heq : t' = t
  · subst heq
    rw [surface_setSurface_self, hs.1, hs.2]
    exact h.surface t'
  · rw [surface_setSurface_of_ne c heq]
    exact h.surface t'

theorem draw (h : c.Sized width height) (q : Quad) : (c.draw q).Sized width height := by
  cases hempty : q.isEmpty with
  | true =>
    rw [draw_of_isEmpty c hempty]
    exact ⟨h.width_eq, h.height_eq, h.surface⟩
  | false =>
    obtain ⟨hwidth, hheight, hsurface⟩ := h.setSurface c.bound
      (s := (c.surface c.bound).composite q (q.texture.bind c.textureSurface?)) ⟨rfl, rfl⟩
    rw [draw_of_not_isEmpty c hempty]
    exact ⟨hwidth, hheight, hsurface⟩

/-- No call changes a size. -/
theorem call [Image.Library] {w : World Canvas} (h : w.gfx.Sized width height) (c : Call) :
    (w.call c).2.gfx.Sized width height := by
  rcases call_cases w c with ⟨-, heq⟩ | ⟨q, -, heq⟩ | ⟨_, _, _, _, _, heq⟩
  · rw [heq]
    exact h.setSurface w.gfx.bound ⟨rfl, rfl⟩
  · rw [heq]
    exact h.draw q
  · rw [heq]
    exact ⟨h.width_eq, h.height_eq, h.surface⟩

end Sized

/-- A canvas after some calls, each on whatever disk there is by then. -/
def serve [Image.Library] (c : Canvas) (requests : List (Disk × Call)) : Canvas :=
  requests.foldl (fun c request => ((World.mk c request.1 #[]).after request.2).gfx) c

theorem Sized.serve [Image.Library] {width height : Nat} {c : Canvas}
    (h : c.Sized width height) (requests : List (Disk × Call)) :
    (c.serve requests).Sized width height := by
  induction requests generalizing c with
  | nil => exact h
  | cons request requests ih => exact ih (Sized.call (w := ⟨c, request.1, #[]⟩) h request.2)

/-! ## Lookups -/

/-- A row of surfaces can be cut between two places of it, and then both are found: the larger one
is where it is cut, and the first one behind the cut. -/
structure Cuts (row : Array Surface) (write read : Nat) : Prop where
  apart : write ≠ read
  write_first : write < read → read ≤ row.size ∧ write < (row.take read).size ∧
    0 < (row.drop read).size
  read_first : ¬ write < read → write ≤ row.size ∧ read < (row.take write).size ∧
    0 < (row.drop write).size

/-- Everything on a canvas of this size is where it is looked up. -/
structure InRange (width height : Nat) (c : Canvas) : Prop where
  /-- There is at least one pixel. -/
  size : c.width = width ∧ c.height = height ∧ 0 < width ∧ 0 < height
  surfaces : ∀ t, t.slot < c.surfaces.toArray.size ∧ (c.surface t).width = width ∧
    (c.surface t).height = height ∧ (c.surface t).pixels.size = width * height
  textures : ∀ s ∈ c.textures, s.pixels.size = s.width * s.height
  /-- A quad that samples another target than it is drawn on finds both surfaces. -/
  cut : ∀ t, t ≠ c.bound → Cuts c.surfaces.toArray c.bound.slot t.slot
  /-- Every column of every row of a surface can be painted. -/
  painted : ∀ t x y, x < width → y < height →
    Surface.place width x y < (c.surface t).pixels.size ∧ (c.pixel? t x y).isSome
  /-- At any position, also one that is no number, a texture with pixels is looked up at one of
  them: the first and the last cell of either side are in order, and the cell is between them. -/
  sampled : ∀ texture s, c.textureSurface? texture = some s → 0 < s.pixels.size → ∀ p : Point,
    (0 : Int) ≤ s.width - 1 ∧ (0 : Int) ≤ s.height - 1 ∧
      s.texelIndex p < s.pixels.size ∧ s.pixels[s.texelIndex p]? = some (s.sample p)
  captured : (c.surface .framebuffer).toImage.bytes.size = 4 * (width * height)

theorem cuts_of_ne {n : Nat} (row : Vector Surface n) {write read : Fin n} (h : write ≠ read) :
    Cuts row.toArray write read := by
  have hne : write.val ≠ read.val := fun heq => h (Fin.ext heq)
  refine ⟨hne, fun hlt => ?_, fun hge => ?_⟩
  · simp only [Array.take_eq_extract, Array.drop_eq_extract, Array.size_extract, row.size_toArray]
    omega
  · simp only [Array.take_eq_extract, Array.drop_eq_extract, Array.size_extract, row.size_toArray]
    omega

theorem Sized.inRange {width height : Nat} {c : Canvas} (h : c.Sized width height)
    (hwidth : 0 < width) (hheight : 0 < height) : c.InRange width height where
  size := ⟨h.width_eq, h.height_eq, hwidth, hheight⟩
  surfaces t := by
    obtain ⟨hw, hh⟩ := h.surface t
    refine ⟨?_, hw, hh, by rw [Surface.size_eq, hw, hh]⟩
    rw [c.surfaces.size_toArray]
    exact t.slot.isLt
  textures s _ := s.size_eq
  cut _ hne := cuts_of_ne c.surfaces fun hslot => hne (Target.slot_injective hslot).symm
  painted t x y hx hy := by
    obtain ⟨hw, hh⟩ := h.surface t
    refine ⟨?_, ?_⟩
    · rw [Surface.size_eq, hw, hh]
      exact Surface.place_lt hx hy
    · rw [pixel?, Surface.pixel?_eq_some (hw ▸ hx) (hh ▸ hy)]
      rfl
  sampled _ s _ hpixels p := by
    have hw : 0 < s.width := Nat.pos_of_mul_pos_right (s.size_eq ▸ hpixels)
    have hh : 0 < s.height := Nat.pos_of_mul_pos_left (s.size_eq ▸ hpixels)
    have hindex := Surface.texelIndex_lt hpixels p
    refine ⟨by omega, by omega, hindex, ?_⟩
    rw [Surface.sample, dif_pos hpixels]
    exact Array.getElem?_eq_getElem hindex
  captured := by
    obtain ⟨hw, hh⟩ := h.surface .framebuffer
    rw [Image.size_eq]
    exact hw ▸ hh ▸ rfl

/-- Whatever size was asked for, zero included, and whatever calls have been made. -/
theorem serve_inRange [Image.Library] (width height : Nat) (requests : List (Disk × Call)) :
    ((ofSize width height).serve requests).InRange (max width 1) (max height 1) :=
  ((sized_ofSize width height).serve requests).inRange (by omega) (by omega)

end DemoReel.Canvas
