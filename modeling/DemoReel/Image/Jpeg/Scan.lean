import DemoReel.Image.Jpeg.Block
import DemoReel.Image.Jpeg.Segment

/-!
# The scans of a JPEG file

From compressed data to the weights of all blocks. A sequential picture gives each block whole; a
progressive one gives first the high bits of some weights and then, scan by scan, other weights and
further bits. Data that ends early goes on with zeros, and a codeword without a meaning ends the
picture: what was read before it stays.
-/

namespace DemoReel.Jpeg

/-! ## Compressed data -/

/-- The compressed data from byte `i` on, cut at the markers that it starts afresh at, and the byte
where it ends. A zero behind a byte of ones only tells it from a marker. -/
def intervals (data : ByteArray) : Nat → Nat → ByteArray → List ByteArray → List ByteArray × Nat
  | 0, i, current, done => ((current :: done).reverse, i)
  | fuel + 1, i, current, done =>
    match readByte? data i with
    | none => ((current :: done).reverse, i)
    | some b =>
      if b ≠ markerLead then intervals data fuel (i + 1) (current.push b) done
      else match readByte? data (i + 1) with
        | none => ((current :: done).reverse, i)
        | some m =>
          if m = 0 then intervals data fuel (i + 2) (current.push b) done
          else if m = markerLead then intervals data fuel (i + 1) current done
          else if 0xD0 ≤ m ∧ m ≤ 0xD7 then intervals data fuel (i + 2) .empty (current :: done)
          else ((current :: done).reverse, i)

/-- A run of compressed data, and what later blocks of it build on. -/
structure Feed where
  data : ByteArray
  bit : Nat := 0
  /-- The first weight of the last block, for each component. -/
  last : Array Int32 := Array.replicate 4 0
  /-- How many blocks are still without new weights. -/
  idle : Nat := 0

/-- A reading step; it fails at a codeword that means nothing. -/
abbrev Reader := StateT Feed Option

/-- The next bit, from each byte the highest first. -/
def readBit : Reader Nat := fun s =>
  some (((byteAt s.data (s.bit / 8) 0).toNat >>> (7 - s.bit % 8)) % 2, { s with bit := s.bit + 1 })

/-- A number of `n` bits behind `v`, the highest first. -/
def readBitsFrom : Nat → Nat → Reader Nat
  | 0, v => pure v
  | n + 1, v => do readBitsFrom n (2 * v + (← readBit))

def readBits (n : Nat) : Reader Nat := readBitsFrom n 0

def readSymbol (c : PrefixCode) : Reader Nat := c.read readBit

/-- A number that takes `n` bits without its sign. The lower half of the values are negative. -/
def readSigned (n : Nat) : Reader Int32 := do
  let v ← readBits n
  if 0 < n ∧ v < 1 <<< (n - 1) then pure (v.toInt32 - (1 <<< n - 1).toInt32) else pure v.toInt32

/-! ## Blocks -/

/-- The first weight of a block, as its difference from the last one. -/
def readFirst (c : PrefixCode) (component : Nat) : Reader Int32 := do
  let difference ← readSigned (← readSymbol c)
  let s ← get
  let v := s.last.getD component 0 + difference
  set { s with last := s.last.set! component v }
  pure v

/-- The weights from `k` on. A symbol holds how many zeros come first and the size of the weight. -/
def readRuns (c : PrefixCode) : Nat → Nat → Block → Reader Block
  | 0, _, b => pure b
  | fuel + 1, k, b => do
    if 64 ≤ k then pure b
    else
      let s ← readSymbol c
      let run := s / 16
      if s % 16 = 0 then
        if run = 15 then readRuns c fuel (k + 16) b else pure b
      else
        let v ← readSigned (s % 16)
        readRuns c fuel (k + run + 1) (b.setIfInBounds (k + run) v)

/-- A whole block. -/
def readWhole (first other : PrefixCode) (component : Nat) : Reader Block := do
  let v ← readFirst first component
  readRuns other 64 1 (Block.zero.set 0 v)

/-- The number of blocks that a symbol of a progressive scan passes over, this one included. -/
def readIdle (size : Nat) : Reader Nat := do
  pure (1 <<< size + (← readBits size))

/-- The high bits of the weights from `k` to `stop`. -/
def readHigh (c : PrefixCode) (stop low : Nat) : Nat → Nat → Block → Reader Block
  | 0, _, b => pure b
  | fuel + 1, k, b => do
    if stop < k then pure b
    else
      let s ← readSymbol c
      let run := s / 16
      if s % 16 = 0 then
        if run = 15 then readHigh c stop low fuel (k + 16) b
        else
          let n ← readIdle run
          modify fun f => { f with idle := n - 1 }
          pure b
      else
        let v ← readSigned (s % 16)
        readHigh c stop low fuel (k + run + 1)
          (b.setIfInBounds (k + run) (v * (1 <<< low : Nat).toInt32))

/-- One more bit of a weight that is not zero. -/
def refine (unit v : Int32) : Reader Int32 := do
  if (← readBit) = 1 ∧ v / unit % 2 = 0 then pure (if 0 ≤ v then v + unit else v - unit)
  else pure v

/-- One more bit of the weights from `k` to `stop`, up to the place behind `zeros` zeros. There the
weight becomes `fresh`. -/
def refineUpTo (stop : Nat) (unit fresh : Int32) : Nat → Nat → Nat → Block → Reader (Nat × Block)
  | 0, k, _, b => pure (k, b)
  | fuel + 1, k, zeros, b => do
    if stop < k then pure (k, b)
    else
      let v := b.toArray.getD k 0
      if v ≠ 0 then
        let v ← refine unit v
        refineUpTo stop unit fresh fuel (k + 1) zeros (b.setIfInBounds k v)
      else match zeros with
        | 0 => pure (k + 1, if fresh = 0 then b else b.setIfInBounds k fresh)
        | zeros + 1 => refineUpTo stop unit fresh fuel (k + 1) zeros b

/-- One more bit of all weights from `k` to `stop` that are not zero. -/
def refineRest (stop : Nat) (unit : Int32) (k : Nat) (b : Block) : Reader Block := do
  let (_, b) ← refineUpTo stop unit 0 64 k 64 b
  modify fun f => { f with idle := f.idle - 1 }
  pure b

/-- One more bit of the weights from `k` to `stop`, among them new ones. -/
def readLow (c : PrefixCode) (stop : Nat) (unit : Int32) : Nat → Nat → Block → Reader Block
  | 0, _, b => pure b
  | fuel + 1, k, b => do
    if stop < k then pure b
    else
      let s ← readSymbol c
      let run := s / 16
      if s % 16 = 0 ∧ run < 15 then
        let n ← readIdle run
        modify fun f => { f with idle := n }
        refineRest stop unit k b
      else
        let fresh ← if s % 16 = 0 then pure 0
          else do pure (if (← readBit) = 1 then unit else -unit)
        let (k, b) ← refineUpTo stop unit fresh 64 k run b
        readLow c stop unit fuel k b

/-- What a scan makes of a block. -/
def readBlock (progressive : Bool) (s : Scan) (first? other? : Option PrefixCode)
    (component : Nat) (b : Block) : Reader Block := do
  let need (c? : Option PrefixCode) : Reader PrefixCode := liftM c?
  let unit := (1 <<< s.low : Nat).toInt32
  if !progressive then readWhole (← need first?) (← need other?) component
  else if s.start = 0 then
    if s.high = 0 then pure (b.set 0 ((← readFirst (← need first?) component) * unit))
    else if (← readBit) = 1 then pure (b.set 0 (b[0] ||| unit))
    else pure b
  else if s.high = 0 then
    if 0 < (← get).idle then
      modify fun f => { f with idle := f.idle - 1 }
      pure b
    else readHigh (← need other?) s.stop s.low 64 s.start b
  else if 0 < (← get).idle then refineRest s.stop unit s.start b
  else readLow (← need other?) s.stop unit 64 s.start b

/-! ## Pictures -/

/-- The blocks of each component, row by row. -/
abbrev Weights := Array (Array Block)

def Frame.blank (f : Frame) : Weights :=
  f.components.map fun c => Array.replicate (f.blocksAcross c * f.blocksDown c) Block.zero

/-- The blocks of a component that hold pixels, side by side or one below the other: of `size`
pixels the component has `factor` in `most`. -/
def blocksFor (size factor most : Nat) : Nat := ((size * factor + most - 1) / most + 7) / 8

/-- The blocks that the scan gives in turn `n`: those of a unit, or one if only one component is in
the scan. -/
def Scan.turn (s : Scan) (f : Frame) (n : Nat) : List (ScanPart × Nat) :=
  match s.parts with
  | [p] =>
    match f.components[p.component]? with
    | none => []
    | some c =>
      let across := blocksFor f.width c.across f.maxAcross
      [(p, n / across * f.blocksAcross c + n % across)]
  | parts => parts.flatMap fun p =>
    match f.components[p.component]? with
    | none => []
    | some c => (List.range c.down).flatMap fun y => (List.range c.across).map fun x =>
      (p, (n / f.unitsAcross * c.down + y) * f.blocksAcross c + n % f.unitsAcross * c.across + x)

/-- How many turns a scan has, and how many of them make a row. -/
def Scan.turns (s : Scan) (f : Frame) : Nat × Nat :=
  match s.parts with
  | [p] =>
    match f.components[p.component]? with
    | none => (0, 1)
    | some c =>
      let across := blocksFor f.width c.across f.maxAcross
      (across * blocksFor f.height c.down f.maxDown, across)
  | _ => (f.unitsAcross * f.unitsDown, f.unitsAcross)

/-- Reads the blocks of a turn. -/
def readTurn (t : Tables) (f : Frame) (s : Scan) :
    List (ScanPart × Nat) → Weights → Feed → Option (Weights × Feed)
  | [], w, feed => some (w, feed)
  | (p, i) :: rest, w, feed =>
    let b := (w.getD p.component #[]).getD i Block.zero
    match readBlock f.progressive s ((t.firstCodes[p.firstCode]?).join)
        ((t.otherCodes[p.otherCode]?).join) p.component b feed with
    | none => none
    | some (b, feed) => readTurn t f s rest (w.modify p.component (·.set! i b)) feed

/-- Reads `left` turns from turn `n` on. The result tells how many were read in all. -/
def readTurns (t : Tables) (f : Frame) (s : Scan) :
    Nat → Nat → List ByteArray → Feed → Weights → Weights × Nat
  | 0, n, _, _, w => (w, n)
  | left + 1, n, runs, feed, w =>
    let restarts := 0 < t.interval ∧ 0 < n ∧ n % t.interval = 0
    let feed := if restarts then { data := runs.headD .empty } else feed
    let runs := if restarts then runs.tail else runs
    match readTurn t f s (s.turn f n) w feed with
    | none => (w, n)
    | some (w, feed) => readTurns t f s left (n + 1) runs feed w

/-- Whether a scan goes with the frame. In a progressive one the first weight stands apart from the
others, and those come for one component at a time. -/
def Scan.fits (s : Scan) (f : Frame) : Bool :=
  !f.progressive || (if s.start = 0 then s.stop == 0 else s.parts.length == 1)

/-- The weights after a scan, how many rows of units are complete, and whether the scan is. -/
def readScan (t : Tables) (f : Frame) (s : Scan) (runs : List ByteArray) (w : Weights) :
    Weights × Nat × Bool :=
  if !s.fits f then (w, 0, false)
  else
    let (turns, perRow) := s.turns f
    let (w, n) := readTurns t f s turns 0 runs.tail { data := runs.headD .empty } w
    (w, if n = turns then f.unitsDown else n / max 1 perRow, n = turns)

/-- The weights after all scans from byte `i` on, and how many rows of units can be shown. A
sequential picture is complete when each component was in a scan; a progressive one ends where no
further scan begins, and shows what it has. -/
def readScans (data : ByteArray) (f : Frame) :
    Nat → Setup → Scan → Nat → List Nat → Weights → Weights × Nat
  | 0, _, _, _, _, w => (w, f.unitsDown)
  | fuel + 1, setup, s, i, seen, w =>
    let (runs, i) := intervals data (data.size + 1) i .empty []
    let (w, rows, complete) := readScan setup.tables f s runs w
    let seen := s.parts.map (·.component) ++ seen
    if !complete then (w, if f.progressive then f.unitsDown else rows)
    else if !f.progressive && (List.range f.components.size).all seen.contains then
      (w, f.unitsDown)
    else match readSegments? data (data.size + 1) setup i with
      | none => (w, f.unitsDown)
      | some (setup, _, s, i) => readScans data f fuel setup s i seen w

end DemoReel.Jpeg
