/-!
# Blocks of a JPEG file

Eight by eight samples as the weights of 64 cosine waves, stored from the slowest wave to the
fastest, and the integer transform that leads back to samples.
-/

namespace DemoReel.Jpeg

/-- The weights of a block, in the order in which files store them. -/
abbrev Block := Vector Int32 64

namespace Block

def zero : Block := Vector.replicate 64 0

/-- The cells of a block along its diagonals, whose direction alternates. -/
def zigzag : List Nat :=
  (List.range 15).flatMap fun d =>
    let cells := (List.range 8).filterMap fun row =>
      if row ≤ d ∧ d - row < 8 then some (8 * row + (d - row)) else none
    if d % 2 = 0 then cells.reverse else cells

/-- For each cell its place in the stored order. -/
def places : Array Nat :=
  (Array.range 64).map fun cell => zigzag.idxOf cell

/-- Eight samples from the weights of eight waves. The weights of the odd waves meet in five
products first, as do those of the second and the sixth; the constants are sums and differences of
cosines, times 4096. The result is shifted down by `shift` bits after `bias` was added. -/
def transform (bias : Int32) (shift : Int32) (w : Nat → Int32) : Array Int32 :=
  let p := (w 2 + w 6) * 2217
  let e2 := p + w 6 * -7567
  let e3 := p + w 2 * 3135
  let e0 := (w 0 + w 4) * 4096
  let e1 := (w 0 - w 4) * 4096
  let x0 := e0 + e3 + bias
  let x1 := e1 + e2 + bias
  let x2 := e1 - e2 + bias
  let x3 := e0 - e3 + bias
  let q := ((w 7 + w 3) + (w 5 + w 1)) * 4816
  let q1 := q + (w 7 + w 1) * -3685
  let q2 := q + (w 5 + w 3) * -10497
  let q3 := (w 7 + w 3) * -8034
  let q4 := (w 5 + w 1) * -1597
  let o0 := w 7 * 1223 + q1 + q3
  let o1 := w 5 * 8410 + q2 + q4
  let o2 := w 3 * 12586 + q2 + q3
  let o3 := w 1 * 6149 + q1 + q4
  #[(x0 + o3) >>> shift, (x1 + o2) >>> shift, (x2 + o1) >>> shift, (x3 + o0) >>> shift,
    (x3 - o0) >>> shift, (x2 - o1) >>> shift, (x1 - o2) >>> shift, (x0 - o3) >>> shift]

/-- The nearest byte. -/
def clampByte (x : Int32) : UInt8 :=
  if x < 0 then 0 else if 255 < x then 255 else x.toUInt32.toUInt8

/-- The samples of a block, row by row, when each weight counts `table` times. The columns are
transformed first and keep two bits more than they need; the rows then drop those and the 15 bits
that both passes have gathered, and move the middle from zero to 128. -/
def samples (b : Block) (table : Array Int32) : ByteArray :=
  let weight (cell : Nat) : Int32 :=
    let k := places.getD cell 0
    b.toArray.getD k 0 * table.getD k 0
  let columns := (Array.range 8).map fun col => transform 512 10 fun row => weight (8 * row + col)
  (Array.range 8).foldl (fun out row =>
    (transform (512 + 65536 + 128 * 131072) 17 fun col => (columns.getD col #[]).getD row 0).foldl
      (fun out x => out.push (clampByte x)) out) .empty

end Block

end DemoReel.Jpeg
