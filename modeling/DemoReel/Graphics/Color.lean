/-!
# Colors and points

Four channels in binary32, nominally from zero to one, and positions in the unit square. Arithmetic
is channel by channel and rounds after each operation.
-/

namespace DemoReel

/-- A color with its opacity. -/
structure Color where
  red : Float32
  green : Float32
  blue : Float32
  alpha : Float32
  deriving DecidableEq, Repr, Inhabited

/-- A position; `(0, 0)` is the lower left corner of a surface and `(1, 1)` the upper right one. -/
structure Point where
  x : Float32
  y : Float32
  deriving DecidableEq, Repr, Inhabited

namespace Color

def white : Color := ⟨1, 1, 1, 1⟩

/-- Opaque black, which surfaces are cleared to. -/
def black : Color := ⟨0, 0, 0, 1⟩

/-- The color with its opacity scaled. -/
def fade (c : Color) (level : Float32) : Color := { c with alpha := c.alpha * level }

/-- The color with its brightness scaled and its opacity kept. -/
def dim (c : Color) (level : Float32) : Color :=
  { c with red := c.red * level, green := c.green * level, blue := c.blue * level }

/-- `a + (b - a) * t` in each channel. -/
def mix (a b : Color) (t : Float32) : Color :=
  ⟨a.red + (b.red - a.red) * t, a.green + (b.green - a.green) * t,
    a.blue + (b.blue - a.blue) * t, a.alpha + (b.alpha - a.alpha) * t⟩

/-- The product of the channels. -/
def modulate (a b : Color) : Color :=
  ⟨a.red * b.red, a.green * b.green, a.blue * b.blue, a.alpha * b.alpha⟩

/-- The same divisor in every channel. -/
def divide (c : Color) (d : Float32) : Color :=
  ⟨c.red / d, c.green / d, c.blue / d, c.alpha / d⟩

/-- The complement of the color; its opacity is kept. -/
def invert (c : Color) : Color :=
  { c with red := 1 - c.red, green := 1 - c.green, blue := 1 - c.blue }

end Color

namespace Point

def zero : Point := ⟨0, 0⟩

def one : Point := ⟨1, 1⟩

def sub (p q : Point) : Point := ⟨p.x - q.x, p.y - q.y⟩

def div (p q : Point) : Point := ⟨p.x / q.x, p.y / q.y⟩

end Point

end DemoReel
