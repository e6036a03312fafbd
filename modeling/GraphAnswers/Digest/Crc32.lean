/-!
# CRC-32

The cyclic redundancy check of gzip members, a bit at a time.
-/
namespace GraphAnswers.Digest.Crc32

/-- The reversed generator polynomial. -/
def polynomial : UInt32 := 0xedb88320

/-- Moves the remainder on by `n` bits. -/
def shift : Nat → UInt32 → UInt32
  | 0, r => r
  | n + 1, r => shift n (if r &&& 1 == 1 then (r >>> 1) ^^^ polynomial else r >>> 1)

/-- Takes in one octet. -/
def step (r : UInt32) (o : UInt8) : UInt32 := shift 8 (r ^^^ o.toUInt32)

/-- The check value of a list of octets. -/
def ofOctets (octets : List UInt8) : UInt32 := octets.foldl step 0xffffffff ^^^ 0xffffffff

end GraphAnswers.Digest.Crc32
