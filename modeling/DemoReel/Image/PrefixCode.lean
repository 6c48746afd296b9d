/-!
# Canonical prefix codes

A code in which no codeword begins another one, given by the lengths of its codewords alone: of one
length they are consecutive numbers in the order of their symbols, and shorter ones come first.
-/

namespace DemoReel

/-- How many codewords each length has, from one bit on, and their symbols in order. -/
structure PrefixCode where
  counts : List Nat
  symbols : Array Nat
  deriving Repr

namespace PrefixCode

/-- The code in which symbol `i` has a codeword of `lengths[i]` bits, or none if that is zero. -/
def ofLengths (maxLength : Nat) (lengths : Array Nat) : PrefixCode where
  counts := (List.range maxLength).map fun l => (lengths.toList.filter (· == l + 1)).length
  symbols := ((List.range maxLength).flatMap fun l =>
    (lengths.toList.zipIdx.filter (·.1 == l + 1)).map (·.2)).toArray

/-- Reads on bit by bit until the codeword is one of the current length. `code` is what was read,
`first` the first codeword of that length and `index` its place among the symbols. -/
@[specialize] def readFrom (bit : StateT σ Option Nat) (symbols : Array Nat) :
    List Nat → Nat → Nat → Nat → StateT σ Option Nat
  | [], _, _, _ => failure
  | count :: counts, code, first, index => do
    let code := code + (← bit)
    if code < first + count then
      if code < first then failure
      else match symbols[index + (code - first)]? with
        | some s => pure s
        | none => failure
    else readFrom bit symbols counts (2 * code) (2 * (first + count)) (index + count)

/-- The symbol of the next codeword; fails where the code has none. -/
@[specialize] def read (c : PrefixCode) (bit : StateT σ Option Nat) : StateT σ Option Nat :=
  readFrom bit c.symbols c.counts 0 0 0

end PrefixCode

end DemoReel
