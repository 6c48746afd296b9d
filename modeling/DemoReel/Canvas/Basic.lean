import DemoReel.Canvas.Surface
import DemoReel.Graphics.World
import DemoReel.Image.Basic

/-!
# The software canvas

A backend without a screen: one surface for each target, textures and shaders loaded from files,
frames written to files. Shaders are checked and kept but not run; a quad with one is drawn as if it
had none.
-/

namespace DemoReel

/-- The state of the software backend. -/
structure Canvas where
  width : Nat
  height : Nat
  surfaces : Vector Surface 5
  bound : Target
  /-- The textures in the order in which they were loaded. -/
  textures : Array Surface
  /-- The handles of the paths that textures were loaded from; what was put in last comes first. -/
  texturePaths : List (Path × TextureId)
  shaders : Array (Path × ShaderStage)
  framesPresented : Nat
  quadsDrawn : Nat

namespace Canvas

/-- The largest number of bytes that an array may take. -/
def maxBytes : Nat := 0x7FFFFFFFFFFFFFFF

/-- A pixel has four numbers of four bytes each. -/
def bytesPerPixel : Nat := 16

/-- A surface of the size is not too large for an array. Neither side of a canvas is ever shorter
than one pixel. -/
def Fits (width height : Nat) : Prop := max width 1 * max height 1 * bytesPerPixel ≤ maxBytes

instance (width height : Nat) : Decidable (Fits width height) :=
  inferInstanceAs (Decidable (_ ≤ _))

/-- A cleared canvas of a size that fits. -/
def ofSize (width height : Nat) : Canvas where
  width := max width 1
  height := max height 1
  surfaces := Vector.replicate 5 (Surface.filled (max width 1) (max height 1) .black)
  bound := .framebuffer
  textures := #[]
  texturePaths := []
  shaders := #[]
  framesPresented := 0
  quadsDrawn := 0

def surface (c : Canvas) (t : Target) : Surface := c.surfaces[t.slot]

def setSurface (c : Canvas) (t : Target) (s : Surface) : Canvas :=
  { c with surfaces := c.surfaces.set t.slot s }

/-- One pixel of a target; rows count from the top. -/
def pixel? (c : Canvas) (t : Target) (x y : Nat) : Option Color := (c.surface t).pixel? x y

/-- Clears the bound target. -/
def clear (c : Canvas) : Canvas := c.setSurface c.bound ((c.surface c.bound).fill .black)

/-- The row with `f` of two of its elements in the place of the first of them. The row is cut
between the two, so that one may change while the other is looked at. -/
def setFrom {α : Type} {n : Nat} (row : Vector α n) (write read : Fin n) (h : write ≠ read)
    (f : α → α → α) : Vector α n :=
  have hne : write.val ≠ read.val := fun heq => h (Fin.ext heq)
  if hlt : write.val < read.val then
    let low := row.take read
    let high := row.drop read
    have : write.val < min read.val n := by omega
    have : 0 < n - read.val := by omega
    (low.set write (f low[write.val] high[0]) ++ high).cast (by omega)
  else
    let low := row.take write
    let high := row.drop write
    have : read.val < min write.val n := by omega
    have : 0 < n - write.val := by omega
    (low ++ high.set 0 (f high[0] low[read.val])).cast (by omega)

/-- Draws on the bound target. A handle that was never given out stands for nothing. -/
def draw (c : Canvas) (q : Quad) : Canvas :=
  let c := { c with quadsDrawn := c.quadsDrawn + 1 }
  if q.isEmpty then c
  else
    match q.texture with
    | none => c.setSurface c.bound ((c.surface c.bound).composite q none)
    | some (.loaded id) =>
      c.setSurface c.bound ((c.surface c.bound).composite q c.textures[id.index.toNat]?)
    | some (.target t) =>
      if h : t = c.bound then
        -- a surface that is sampled while it is drawn on is seen as it was
        let snapshot := c.surface c.bound
        c.setSurface c.bound ((c.surface c.bound).composite q (some snapshot))
      else
        have hslot : c.bound.slot ≠ t.slot := fun heq => h (Target.slot_injective heq).symm
        { c with
          surfaces := setFrom c.surfaces c.bound.slot t.slot hslot fun s texture =>
            s.composite q (some texture) }

/-- The handle that a path was given when it was first loaded. -/
def loadedTexture? (c : Canvas) (p : Path) : Option TextureId :=
  (c.texturePaths.find? (·.1.same p)).map (·.2)

section

variable [Image.Library]

/-- Loads a texture. A path is read once only; later loads give the same handle. -/
def loadTexture (p : Path) (w : World Canvas) : Except GraphicsError TextureId × World Canvas :=
  match w.gfx.loadedTexture? p with
  | some id => (.ok id, w)
  | none =>
    match Image.Library.load w.disk p with
    | .error why => (.error (.texture p why), w)
    | .ok im =>
      let id := ⟨UInt32.ofNat w.gfx.textures.size⟩
      let gfx := { w.gfx with
        textures := w.gfx.textures.push (.ofImage im)
        texturePaths := (p, id) :: w.gfx.texturePaths }
      (.ok id, { w with gfx }.note (.textureLoaded p im.width im.height))

/-- Loads a shader. Its source must be text and must not be blank. -/
def loadShader (p : Path) (stage : ShaderStage) (w : World Canvas) :
    Except GraphicsError ShaderId × World Canvas :=
  match w.disk.readText p with
  | .error f => (.error (.shader p (.file f)), w)
  | .ok source =>
    if Text.allBlank source.toList then (.error (.shader p .blankSource), w)
    else
      let id := ⟨UInt32.ofNat w.gfx.shaders.size⟩
      let gfx := { w.gfx with shaders := w.gfx.shaders.push (p, stage) }
      (.ok id, { w with gfx }.note (.shaderLoaded stage p))

/-- Writes the framebuffer to a file. -/
def capture (p : Path) (w : World Canvas) : Except GraphicsError Unit × World Canvas :=
  let (result, disk) := Image.Library.save (w.gfx.surface .framebuffer).toImage p w.disk
  (result.mapError (.capture p), { w with disk })

/-- A call whose only effect is on the canvas. -/
def step (w : World Canvas) (f : Canvas → Canvas) : Unit × World Canvas :=
  ((), { w with gfx := f w.gfx })

instance : Graphics Canvas where
  perform
    | .clear, w => step w clear
    | .clearDepth, w => step w id
    | .draw q, w => step w (·.draw q)
    | .bind t, w => step w fun c => { c with bound := t }
    | .reset, w => step w fun c => { c with bound := .framebuffer }
    | .present, w =>
      (.ok (), { w with gfx := { w.gfx with framesPresented := w.gfx.framesPresented + 1 } })
    | .loadTexture p, w => loadTexture p w
    | .loadShader p stage, w => loadShader p stage w
    | .capture p, w => capture p w

end

end Canvas

end DemoReel
