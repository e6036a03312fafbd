import GraphAnswers.Text.CaseFolding
/-!
# Sets of characters

A set is given by the test for its members.  With it goes the room that a machine takes which reads
octets and has to tell the members: little for a few neighbouring characters, much for a set with
characters of all scripts.
-/
namespace GraphAnswers.Text

/-- A set of characters. -/
structure CharacterSet where
  has : Char → Bool
  /-- About how many octets of room it takes to tell the members. -/
  room : Nat

namespace CharacterSet

/-- The room for sets in ASCII of so many stretches of neighbouring characters. -/
def roomInAscii (stretches : Nat) : Nat := 64 + 8 * stretches

/-- The room for sets of so many stretches of neighbouring characters. -/
def roomFor (stretches : Nat) : Nat := 64 * (stretches + 1)

/-- The room for what a complement may have beyond ASCII. -/
def roomBeyondAscii : Nat := 400

/-- No character. -/
def none : CharacterSet := ⟨fun _ => false, 0⟩

/-- Every character. -/
def all : CharacterSet := ⟨fun _ => true, roomBeyondAscii⟩

/-- One character. -/
def single (c : Char) : CharacterSet := ⟨(· == c), 32 * c.utf8Size⟩

/-- The characters of ASCII that satisfy `p`, in so many stretches. -/
def inAscii (p : Char → Bool) (stretches : Nat) : CharacterSet :=
  ⟨fun c => c.toNat < 0x80 && p c, roomInAscii stretches⟩

/-- The characters from one to another. -/
def range (first last : Char) : CharacterSet :=
  ⟨fun c => first ≤ c && c ≤ last, if last.toNat < 0x80 then roomInAscii 1 else roomFor 4⟩

/-- The characters of either set. -/
def union (a b : CharacterSet) : CharacterSet := ⟨fun c => a.has c || b.has c, a.room + b.room⟩

/-- The characters of both sets. -/
def common (a b : CharacterSet) : CharacterSet := ⟨fun c => a.has c && b.has c, min a.room b.room⟩

/-- The characters of the first set that the second has not. -/
def difference (a b : CharacterSet) : CharacterSet := ⟨fun c => a.has c && !b.has c, a.room⟩

/-- The characters of one set only. -/
def oneOnly (a b : CharacterSet) : CharacterSet := ⟨fun c => a.has c != b.has c, a.room + b.room⟩

/-- The characters that a set has not. -/
def complement (a : CharacterSet) : CharacterSet := ⟨fun c => !a.has c, a.room + roomBeyondAscii⟩

/-- The complement of a set, if asked for. -/
def complementIf (asked : Bool) (a : CharacterSet) : CharacterSet :=
  if asked then a.complement else a

/-- The members of a set and the characters that differ from one in case only; if `ascii`, no
characters but the letters of ASCII differ so. -/
def folded (ascii : Bool) (a : CharacterSet) : CharacterSet :=
  ⟨fun c =>
    if ascii then a.has c || a.has c.toLower || a.has c.toUpper else (caseVariants c).any a.has,
    a.room + roomInAscii 1⟩

/-- Whether a set has characters beyond ASCII whose numbers fit an octet. -/
def hasHighOctet (a : CharacterSet) : Bool :=
  (List.range 0x80).any fun n => a.has (Char.ofNat (0x80 + n))

end CharacterSet

end GraphAnswers.Text
