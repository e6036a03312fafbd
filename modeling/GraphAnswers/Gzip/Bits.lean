/-!
# Octets as a stream of bits

Compressed data is read a few bits at a time, the lowest bit of an octet first.
-/
namespace GraphAnswers.Gzip

/-- The lowest `n` bits of a number, the lowest first. -/
def lowBits : Nat → Nat → List Bool
  | 0, _ => []
  | n + 1, value => (value % 2 == 1) :: lowBits n (value / 2)

/-- The bits of octets, in the order in which they are read. -/
def bitsOf (octets : List UInt8) : List Bool := octets.flatMap fun o => lowBits 8 o.toNat

/-- The number that the next `n` bits stand for, the lowest first, and the bits after them. -/
def readBits : Nat → List Bool → Option (Nat × List Bool)
  | 0, bits => some (0, bits)
  | _ + 1, [] => none
  | n + 1, bit :: bits =>
    (readBits n bits).map fun (value, rest) => ((if bit then 1 else 0) + 2 * value, rest)

/-- Leaves out the rest of the octet that has been begun. -/
def alignToOctet (bits : List Bool) : List Bool := bits.drop (bits.length % 8)

end GraphAnswers.Gzip
