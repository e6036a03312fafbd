import GraphAnswers.Text.Category
/-!
# Characters that are not shown as they are

The characters that a quoted text shows by number: those without a shape of their own (controls,
format characters, separators, private and unassigned characters, and what has the Unicode property
`Default_Ignorable_Code_Point`), and those that extend the character before them (Unicode property
`Grapheme_Extend`).
-/
namespace GraphAnswers.Text

/-- The characters of other categories that extend the one before them or can be ignored, as ranges
with both ends included. -/
def joinedRanges : List (Nat × Nat) := [
  (0x9be, 0x9be), (0x9d7, 0x9d7), (0xb3e, 0xb3e), (0xb57, 0xb57), (0xbbe, 0xbbe), (0xbd7, 0xbd7),
  (0xcc0, 0xcc0), (0xcc2, 0xcc2), (0xcc7, 0xcc8), (0xcca, 0xccb), (0xcd5, 0xcd6), (0xd3e, 0xd3e),
  (0xd57, 0xd57), (0xdcf, 0xdcf), (0xddf, 0xddf), (0x115f, 0x1160), (0x1715, 0x1715),
  (0x1734, 0x1734), (0x1b35, 0x1b35), (0x1b3b, 0x1b3b), (0x1b3d, 0x1b3d), (0x1b43, 0x1b44),
  (0x1baa, 0x1baa), (0x1bf2, 0x1bf3), (0x302e, 0x302f), (0x3164, 0x3164), (0xa953, 0xa953),
  (0xa9c0, 0xa9c0), (0xff9e, 0xffa0), (0x111c0, 0x111c0), (0x11235, 0x11235), (0x1133e, 0x1133e),
  (0x1134d, 0x1134d), (0x11357, 0x11357), (0x113b8, 0x113b8), (0x113c2, 0x113c2),
  (0x113c5, 0x113c5), (0x113c7, 0x113c9), (0x113cf, 0x113cf), (0x114b0, 0x114b0),
  (0x114bd, 0x114bd), (0x115af, 0x115af), (0x116b6, 0x116b6), (0x11930, 0x11930),
  (0x1193d, 0x1193d), (0x11f41, 0x11f41), (0x16ff0, 0x16ff1), (0x1d165, 0x1d166),
  (0x1d16d, 0x1d172)]

/-- Whether a character is not shown as it is. -/
def isUnprintable (c : Char) : Bool :=
  if c.toNat < 0x80 then c.toNat < 0x20 || c.toNat == 0x7f
  else
    let category := Category.of c
    category.isOther || category.isSeparator || category == .mn || category == .me ||
      joinedRanges.any fun r => r.1 ≤ c.toNat && c.toNat ≤ r.2

end GraphAnswers.Text
