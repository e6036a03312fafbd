import GraphAnswers.Digest.Crc32
import GraphAnswers.Gzip.Inflate
/-!
# Gzip members

A gzip file is a run of members, each a header, compressed data, and a trailer with the check value
and the length of the content.  A dump is read up to the end of its first member
(`Gzip.content?`); whatever follows is left alone.
-/
namespace GraphAnswers.Gzip

/-- Little-endian number. -/
def natOfOctets : List UInt8 → Nat
  | [] => 0
  | o :: rest => o.toNat + 256 * natOfOctets rest

/-- The longest name or comment that a header may carry. -/
def maxHeaderText : Nat := 65535

/-- Leaves out a text that a zero octet ends. -/
def skipText (octets : List UInt8) : Option (List UInt8) :=
  let text := octets.takeWhile (· != 0)
  match octets.drop text.length with
  | [] => none
  | _ :: rest => if text.length ≤ maxHeaderText then some rest else none

/-- Leaves out the header of a member. -/
def skipHeader (octets : List UInt8) : Option (List UInt8) := do
  match octets with
  | 0x1f :: 0x8b :: 8 :: flags :: _ =>
    if octets.length < 10 ∨ flags &&& 0xe0 ≠ 0 then none
    let rest := octets.drop 10
    let rest ←
      if flags &&& 4 ≠ 0 then
        if rest.length < 2 then none
        else
          let length := natOfOctets (rest.take 2)
          if rest.length < 2 + length then none else some (rest.drop (2 + length))
      else some rest
    let rest ← if flags &&& 8 ≠ 0 then skipText rest else some rest
    let rest ← if flags &&& 16 ≠ 0 then skipText rest else some rest
    if flags &&& 2 ≠ 0 then
      if rest.length < 2 then none
      else
        let header := octets.take (octets.length - rest.length)
        let check := (Digest.Crc32.ofOctets header).toNat % 65536
        if natOfOctets (rest.take 2) = check then some (rest.drop 2) else none
    else some rest
  | _ => none

/-- The content of the first member, and the octets after it. -/
def member? (octets : List UInt8) : Option (List UInt8 × List UInt8) := do
  let compressed ← skipHeader octets
  let (out, bits) ← inflate (bitsOf compressed)
  let rest := compressed.drop (compressed.length - bits.length / 8)
  if rest.length < 8 then none
  else
    let content := out.toList
    let check := natOfOctets (rest.take 4)
    let size := natOfOctets ((rest.drop 4).take 4)
    if check = (Digest.Crc32.ofOctets content).toNat ∧ size = content.length % 4294967296 then
      some (content, rest.drop 8)
    else none

/-- What a gzip file is read as: the content of its first member. -/
def content? (octets : List UInt8) : Option (List UInt8) := (member? octets).map Prod.fst

end GraphAnswers.Gzip
