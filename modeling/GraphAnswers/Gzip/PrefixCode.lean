import GraphAnswers.Gzip.Bits
/-!
# Prefix codes given by lengths

A prefix code in which shorter code words come first and code words of one length are numbered in
the order of their symbols is given by the length of each symbol's code word; length zero means that
the symbol does not occur.  The lengths have to fill the code exactly, save that there may be no code
word at all, or a single one of length one.
-/
namespace GraphAnswers.Gzip

/-- A prefix code. -/
structure PrefixCode where
  /-- How many code words there are of length 1, 2, and so on up to 15. -/
  counts : List Nat
  /-- The symbols in the order of their code words. -/
  symbols : List Nat
  deriving Repr

namespace PrefixCode

/-- The length of the longest code words. -/
def maxLength : Nat := 15

/-- The symbols whose code words have a length. -/
def symbolsOfLength (lengths : List Nat) (length : Nat) : List Nat :=
  (lengths.zipIdx.filter fun e => e.1 == length).map Prod.snd

/-- How many of the longest code words remain free after the code words counted. -/
def free : List Nat → Nat → Option Nat
  | [], available => some available
  | count :: counts, available =>
    if count ≤ 2 * available then free counts (2 * available - count) else none

/-- The code with the given lengths, if they make one.  A code that leaves room is admitted only if
`loneAdmitted` and it has no code word but one of length one. -/
def ofLengths? (loneAdmitted : Bool) (lengths : List Nat) : Option PrefixCode := do
  let bySize := (List.range maxLength).map fun i => symbolsOfLength lengths (i + 1)
  let counts := bySize.map List.length
  let room ← free counts 1
  if room = 0 ∨ (loneAdmitted ∧ [[], [1]].contains (lengths.filter (0 < ·))) then
    some { counts, symbols := bySize.flatten }
  else none

/-- Follows the next bits through the lengths: `code` is the number made of the bits so far, `first`
the first code word of this length, `index` the place of its symbol. -/
def follow (symbols : List Nat) : List Nat → Nat → Nat → Nat → List Bool → Option (Nat × List Bool)
  | [], _, _, _, _ => none
  | _ :: _, _, _, _, [] => none
  | count :: counts, code, first, index, bit :: bits =>
    let code := 2 * code + (if bit then 1 else 0)
    let first := 2 * first
    if code < first + count then (symbols[index + (code - first)]?).map (·, bits)
    else follow symbols counts code (first + count) (index + count) bits

/-- The symbol of the code word that the bits open with, and the bits after it. -/
def read (c : PrefixCode) (bits : List Bool) : Option (Nat × List Bool) :=
  follow c.symbols c.counts 0 0 0 bits

end PrefixCode

end GraphAnswers.Gzip
