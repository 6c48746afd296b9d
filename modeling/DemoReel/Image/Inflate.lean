import DemoReel.Image.Basic
import DemoReel.Image.PrefixCode

/-!
# Deflated data

Reading a deflate stream: stored blocks, and blocks in the fixed or in their own prefix codes. Bits
come from each byte lowest first. Every block and every symbol takes a bit at least, so the number
of bits bounds all loops. A code must leave no codeword without a meaning; only for distances may
there be a single codeword, or none.
-/

namespace DemoReel.Inflate

/-- A stream, the next bit to read and what has been put out. -/
structure State where
  data : ByteArray
  bit : Nat
  out : ByteArray

/-- A reading step, which fails at the end of the stream and at anything it cannot mean. -/
abbrev Reader := StateT State Option

def readBit : Reader Nat := fun s =>
  if h : s.bit / 8 < s.data.size then
    some ((s.data[s.bit / 8].toNat >>> (s.bit % 8)) % 2, { s with bit := s.bit + 1 })
  else none

/-- A number of `n` bits, the lowest first. -/
def readBits : Nat → Reader Nat
  | 0 => pure 0
  | n + 1 => do
    let b ← readBit
    let rest ← readBits n
    pure (b + 2 * rest)

/-- Skips to the next whole byte. -/
def align : Reader Unit := modify fun s => { s with bit := (s.bit + 7) / 8 * 8 }

def put (b : UInt8) : Reader Unit := modify fun s => { s with out := s.out.push b }

/-- The longest codeword. -/
def maxLength : Nat := 15

/-- Every sequence of bits that is long enough starts with exactly one codeword. The codewords of
length `l` take up the `2 ^ l`th part of all sequences each. -/
def isComplete (lengths : Array Nat) : Bool :=
  lengths.foldl (fun n l => if l = 0 then n else n + 1 <<< (maxLength - l)) 0 == 1 <<< maxLength

/-- At most one codeword, of one bit. -/
def isTrivial (lengths : Array Nat) : Bool :=
  let used := lengths.toList.filter (· ≠ 0)
  used == [] || used == [1]

/-- The code with codewords of these lengths. -/
def codeOf (lengths : Array Nat) : PrefixCode := .ofLengths maxLength lengths

/-- The symbol of the next codeword. -/
def readSymbol (c : PrefixCode) : Reader Nat := c.read readBit

/-- The symbol that ends a block. -/
def endOfBlock : Nat := 256

/-- The shortest lengths for the symbols from 257 on, and the extra bits each one reads. -/
def lengthBases : Array (Nat × Nat) :=
  #[(3, 0), (4, 0), (5, 0), (6, 0), (7, 0), (8, 0), (9, 0), (10, 0), (11, 1), (13, 1), (15, 1),
    (17, 1), (19, 2), (23, 2), (27, 2), (31, 2), (35, 3), (43, 3), (51, 3), (59, 3), (67, 4),
    (83, 4), (99, 4), (115, 4), (131, 5), (163, 5), (195, 5), (227, 5), (258, 0)]

/-- The shortest distances for the distance symbols, and the extra bits each one reads. -/
def distanceBases : Array (Nat × Nat) :=
  #[(1, 0), (2, 0), (3, 0), (4, 0), (5, 1), (7, 1), (9, 2), (13, 2), (17, 3), (25, 3), (33, 4),
    (49, 4), (65, 5), (97, 5), (129, 6), (193, 6), (257, 7), (385, 7), (513, 8), (769, 8),
    (1025, 9), (1537, 9), (2049, 10), (3073, 10), (4097, 11), (6145, 11), (8193, 12), (12289, 12),
    (16385, 13), (24577, 13)]

/-- The number that a symbol with extra bits stands for. -/
def readExtended (bases : Array (Nat × Nat)) (symbol : Nat) : Reader Nat :=
  match bases[symbol]? with
  | some (base, extra) => do pure (base + (← readBits extra))
  | none => failure

/-- Puts out `n` bytes again, each from `distance` bytes before. -/
def copy (distance : Nat) : Nat → Reader Unit
  | 0 => pure ()
  | n + 1 => do
    let s ← get
    if distance = 0 ∨ s.out.size < distance then failure
    else
      put (byteAt s.out (s.out.size - distance) 0)
      copy distance n

/-- The symbols of a block, up to its end. -/
def readCoded (literals distances : PrefixCode) : Nat → Reader Unit
  | 0 => failure
  | fuel + 1 => do
    let symbol ← readSymbol literals
    if symbol < endOfBlock then
      put (UInt8.ofNat symbol)
      readCoded literals distances fuel
    else if symbol = endOfBlock then pure ()
    else
      let length ← readExtended lengthBases (symbol - 257)
      let distance ← readExtended distanceBases (← readSymbol distances)
      copy distance length
      readCoded literals distances fuel

/-- `n` bytes as they are. -/
def readPlain : Nat → Reader Unit
  | 0 => pure ()
  | n + 1 => do
    put (UInt8.ofNat (← readBits 8))
    readPlain n

def readStored : Reader Unit := do
  align
  let n ← readBits 16
  let check ← readBits 16
  if n + check = 0xFFFF then readPlain n else failure

def fixedLiterals : PrefixCode := codeOf <|
  Array.replicate 144 8 ++ Array.replicate 112 9 ++ Array.replicate 24 7 ++ Array.replicate 8 8

def fixedDistances : PrefixCode := codeOf (Array.replicate 30 5)

/-- The order in which a block gives the lengths of the code for its code lengths. -/
def lengthOrder : List Nat := [16, 17, 18, 0, 8, 7, 9, 6, 10, 5, 11, 4, 12, 3, 13, 2, 14, 1, 15]

/-- The lengths of the code for code lengths. -/
def readMetaLengths : Nat → List Nat → Array Nat → Reader (Array Nat)
  | n + 1, symbol :: order, lengths => do
    readMetaLengths n order (lengths.set! symbol (← readBits 3))
  | _, _, lengths => pure lengths

/-- `total` code lengths, some of them given as repetitions. -/
def readLengths (code : PrefixCode) (total : Nat) : Nat → Array Nat → Reader (Array Nat)
  | 0, _ => failure
  | fuel + 1, lengths => do
    if total ≤ lengths.size then
      if lengths.size = total then pure lengths else failure
    else
      let symbol ← readSymbol code
      if symbol < 16 then readLengths code total fuel (lengths.push symbol)
      else if symbol = 16 then
        match lengths.back? with
        | none => failure
        | some last =>
          let n ← readBits 2
          readLengths code total fuel (lengths ++ Array.replicate (n + 3) last)
      else if symbol = 17 then
        let n ← readBits 3
        readLengths code total fuel (lengths ++ Array.replicate (n + 3) 0)
      else
        let n ← readBits 7
        readLengths code total fuel (lengths ++ Array.replicate (n + 11) 0)

/-- The most symbols that the two codes of a block give lengths for. -/
def maxLiterals : Nat := 286

def maxDistances : Nat := 30

/-- A block in codes of its own. -/
def readDynamic (fuel : Nat) : Reader Unit := do
  let literals := (← readBits 5) + 257
  let distances := (← readBits 5) + 1
  let metas := (← readBits 4) + 4
  if maxLiterals < literals ∨ maxDistances < distances then failure
  let metaLengths ← readMetaLengths metas lengthOrder (Array.replicate 19 0)
  if !isComplete metaLengths then failure
  let total := literals + distances
  let lengths ← readLengths (codeOf metaLengths) total (total + 1) #[]
  let ofLiterals := lengths.extract 0 literals
  let ofDistances := lengths.extract literals total
  if !isComplete ofLiterals || ofLiterals.getD endOfBlock 0 == 0 then failure
  if !isComplete ofDistances && !isTrivial ofDistances then failure
  readCoded (codeOf ofLiterals) (codeOf ofDistances) fuel

/-- Blocks up to the one that is marked as the last. -/
def readBlocks (symbols : Nat) : Nat → Reader Unit
  | 0 => failure
  | fuel + 1 => do
    let last ← readBit
    match ← readBits 2 with
    | 0 => readStored
    | 1 => readCoded fixedLiterals fixedDistances symbols
    | 2 => readDynamic symbols
    | _ => failure
    if last = 1 then pure () else readBlocks symbols fuel

/-- The two bytes in front: the method is deflate with a window of at most 32 KiB, there is no
preset dictionary, and the number that the bytes make is a multiple of 31. -/
def readFrame : Reader Unit := do
  let method ← readBits 8
  let flags ← readBits 8
  if method % 16 ≠ 8 ∨ 0x7F < method ∨ flags / 32 % 2 = 1 ∨ (256 * method + flags) % 31 ≠ 0 then
    failure

/-- A whole stream. The checksum behind the blocks must be there; whether it is right is left
open. -/
def readStream (bits : Nat) : Reader Unit := do
  readFrame
  readBlocks bits bits
  align
  let _ ← readBits 32

/-- What a compressed stream stands for. Bytes after its end say nothing. -/
def inflate? (data : ByteArray) : Option ByteArray :=
  (readStream (8 * data.size + 1) { data, bit := 0, out := .empty }).map fun (_, s) => s.out

end DemoReel.Inflate
