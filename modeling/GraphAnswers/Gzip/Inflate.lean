import GraphAnswers.Gzip.PrefixCode
/-!
# Inflating compressed blocks

The compressed data of RFC 1951: a run of blocks, each stored as it is or made of symbols under
prefix codes, where a symbol stands for an octet or for a stretch of what came before.  Every symbol
and every block takes at least one bit, so the number of bits bounds every loop.
-/
namespace GraphAnswers.Gzip

/-- The octets written so far. -/
abbrev Output := Array UInt8

/-- The base and the number of extra bits of each length symbol, from symbol 257 on. -/
def lengthSymbols : List (Nat × Nat) := [
  (3, 0), (4, 0), (5, 0), (6, 0), (7, 0), (8, 0), (9, 0), (10, 0), (11, 1), (13, 1), (15, 1),
  (17, 1), (19, 2), (23, 2), (27, 2), (31, 2), (35, 3), (43, 3), (51, 3), (59, 3), (67, 4), (83, 4),
  (99, 4), (115, 4), (131, 5), (163, 5), (195, 5), (227, 5), (258, 0)]

/-- The base and the number of extra bits of each distance symbol. -/
def distanceSymbols : List (Nat × Nat) := [
  (1, 0), (2, 0), (3, 0), (4, 0), (5, 1), (7, 1), (9, 2), (13, 2), (17, 3), (25, 3), (33, 4),
  (49, 4), (65, 5), (97, 5), (129, 6), (193, 6), (257, 7), (385, 7), (513, 8), (769, 8), (1025, 9),
  (1537, 9), (2049, 10), (3073, 10), (4097, 11), (6145, 11), (8193, 12), (12289, 12), (16385, 13),
  (24577, 13)]

/-- The order in which the lengths of the code for lengths are given. -/
def lengthOrder : List Nat := [16, 17, 18, 0, 8, 7, 9, 6, 10, 5, 11, 4, 12, 3, 13, 2, 14, 1, 15]

/-- Writes `length` octets again, each from `distance` octets back. -/
def copyBack (out : Output) (distance : Nat) : Nat → Output
  | 0 => out
  | n + 1 => copyBack (out.push (out.getD (out.size - distance) 0)) distance n

/-- The value of a symbol with extra bits. -/
def readExtra (table : List (Nat × Nat)) (i : Nat) (bits : List Bool) :
    Option (Nat × List Bool) := do
  let (base, extra) ← table[i]?
  let (more, bits) ← readBits extra bits
  pure (base + more, bits)

/-- Reads symbols up to the end of a block. -/
def readSymbols (literals distances : PrefixCode) :
    Nat → Output → List Bool → Option (Output × List Bool)
  | 0, _, _ => none
  | fuel + 1, out, bits => do
    let (symbol, bits) ← literals.read bits
    if symbol < 256 then readSymbols literals distances fuel (out.push (UInt8.ofNat symbol)) bits
    else if symbol = 256 then pure (out, bits)
    else
      let (length, bits) ← readExtra lengthSymbols (symbol - 257) bits
      let (i, bits) ← distances.read bits
      let (distance, bits) ← readExtra distanceSymbols i bits
      if distance ≤ out.size then
        readSymbols literals distances fuel (copyBack out distance length) bits
      else none

/-- Reads `n` octets. -/
def readOctets : Nat → Output → List Bool → Option (Output × List Bool)
  | 0, out, bits => some (out, bits)
  | n + 1, out, bits => do
    let (value, bits) ← readBits 8 bits
    readOctets n (out.push (UInt8.ofNat value)) bits

/-- Reads a stored block: its length, the complement of its length, and its octets. -/
def readStored (out : Output) (bits : List Bool) : Option (Output × List Bool) := do
  let (length, bits) ← readBits 16 (alignToOctet bits)
  let (complement, bits) ← readBits 16 bits
  if length + complement = 0xffff then readOctets length out bits else none

/-- The codes of a block that does not bring its own. -/
def fixedLiterals : List Nat :=
  List.replicate 144 8 ++ List.replicate 112 9 ++ List.replicate 24 7 ++ List.replicate 8 8

/-- The lengths of the distance code of a block that does not bring its own. -/
def fixedDistances : List Nat := List.replicate 32 5

/-- Reads `n` lengths of three bits each. -/
def readShortLengths : Nat → List Bool → Option (List Nat × List Bool)
  | 0, bits => some ([], bits)
  | n + 1, bits => do
    let (length, bits) ← readBits 3 bits
    let (rest, bits) ← readShortLengths n bits
    pure (length :: rest, bits)

/-- Reads code lengths until there are `total` of them; three symbols stand for repetitions. -/
def readCodeLengths (code : PrefixCode) (total : Nat) :
    Nat → List Nat → List Bool → Option (List Nat × List Bool)
  | 0, _, _ => none
  | fuel + 1, lengths, bits =>
    if lengths.length = total then some (lengths, bits)
    else if total < lengths.length then none
    else do
      let (symbol, bits) ← code.read bits
      if symbol < 16 then readCodeLengths code total fuel (lengths ++ [symbol]) bits
      else if symbol = 16 then
        let last ← lengths.getLast?
        let (more, bits) ← readBits 2 bits
        readCodeLengths code total fuel (lengths ++ List.replicate (3 + more) last) bits
      else if symbol = 17 then
        let (more, bits) ← readBits 3 bits
        readCodeLengths code total fuel (lengths ++ List.replicate (3 + more) 0) bits
      else
        let (more, bits) ← readBits 7 bits
        readCodeLengths code total fuel (lengths ++ List.replicate (11 + more) 0) bits

/-- Reads the two codes that a block brings. -/
def readCodes (bits : List Bool) : Option (PrefixCode × PrefixCode × List Bool) := do
  let (literalCount, bits) ← readBits 5 bits
  let (distanceCount, bits) ← readBits 5 bits
  let (orderCount, bits) ← readBits 4 bits
  if literalCount + 257 > 286 ∨ distanceCount + 1 > 30 then none
  else
    let (short, bits) ← readShortLengths (orderCount + 4) bits
    let ordered := lengthOrder.zip short
    let lengths := (List.range 19).map fun s => ((ordered.find? (·.1 == s)).map Prod.snd).getD 0
    let code ← PrefixCode.ofLengths? false lengths
    let total := literalCount + 257 + (distanceCount + 1)
    let (all, bits) ← readCodeLengths code total (total + 1) [] bits
    let literals ← PrefixCode.ofLengths? true (all.take (literalCount + 257))
    let distances ← PrefixCode.ofLengths? true (all.drop (literalCount + 257))
    pure (literals, distances, bits)

/-- Reads the blocks up to and with the last one. -/
def readBlocks : Nat → Output → List Bool → Option (Output × List Bool)
  | 0, _, _ => none
  | fuel + 1, out, bits => do
    let (last, bits) ← readBits 1 bits
    let (kind, bits) ← readBits 2 bits
    let (out, bits) ←
      match kind with
      | 0 => readStored out bits
      | 1 => do
        let literals ← PrefixCode.ofLengths? true fixedLiterals
        let distances ← PrefixCode.ofLengths? true fixedDistances
        readSymbols literals distances (bits.length + 1) out bits
      | 2 => do
        let (literals, distances, bits) ← readCodes bits
        readSymbols literals distances (bits.length + 1) out bits
      | _ => none
    if last = 1 then pure (out, bits) else readBlocks fuel out bits

/-- Inflates compressed data; gives the octets and the bits after the last block. -/
def inflate (bits : List Bool) : Option (Output × List Bool) :=
  readBlocks (bits.length + 1) #[] bits

end GraphAnswers.Gzip
