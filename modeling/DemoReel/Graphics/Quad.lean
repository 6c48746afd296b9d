import DemoReel.Graphics.Color
import DemoReel.Graphics.Target

/-!
# Quads

The only shape that is drawn: a rectangle in the unit square, with a color, and perhaps a texture
and a shader.
-/

namespace DemoReel

/-- The handle of a loaded texture. -/
structure TextureId where
  index : UInt32
  deriving DecidableEq, Repr

/-- The handle of a loaded shader. -/
structure ShaderId where
  index : UInt32
  deriving DecidableEq, Repr

inductive ShaderStage where
  | vertex
  | fragment
  deriving DecidableEq, Repr

def ShaderStage.text : ShaderStage → String
  | .vertex => "Vertex"
  | .fragment => "Fragment"

/-- What a quad takes its texels from. -/
inductive Texture where
  | target (t : Target)
  | loaded (id : TextureId)
  deriving DecidableEq, Repr

/-- What a shader is told about the moment it draws for. -/
structure ShaderParams where
  seconds : Float32
  progress : Float32
  ease : Float32
  easeSin : Float32
  deriving DecidableEq, Repr

structure ShaderBinding where
  shader : ShaderId
  params : ShaderParams
  deriving DecidableEq, Repr

inductive Blend where
  /-- Over what is there, weighted by the opacity of the source. -/
  | alpha
  /-- The complement of what is there; the source plays no part. -/
  | invert
  deriving DecidableEq, Repr

structure Quad where
  min : Point
  max : Point
  color : Color
  texture : Option Texture := none
  shader : Option ShaderBinding := none
  blend : Blend := .alpha
  deriving DecidableEq, Repr

namespace Quad

/-- The whole surface in one color. -/
def fullscreen (color : Color) : Quad := { min := .zero, max := .one, color }

/-- A quad without area: its upper right corner is not above and to the right of the lower left
one. Corners that cannot be compared do not count as such. -/
def isEmpty (q : Quad) : Bool := q.max.x ≤ q.min.x || q.max.y ≤ q.min.y

/-- A horizontal position is not outside the corners. -/
def spansColumn (q : Quad) (x : Float32) : Bool := !(x < q.min.x || q.max.x < x)

/-- A vertical position is not outside the corners. -/
def spansRow (q : Quad) (y : Float32) : Bool := !(y < q.min.y || q.max.y < y)

/-- No coordinate of the point lies outside the corners. -/
def covers (q : Quad) (p : Point) : Bool := q.spansColumn p.x && q.spansRow p.y

end Quad

end DemoReel
