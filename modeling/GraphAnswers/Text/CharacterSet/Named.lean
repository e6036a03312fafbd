import GraphAnswers.Text.Alphabetic
import GraphAnswers.Text.Blank
import GraphAnswers.Text.CharacterSet
/-!
# Sets of characters with a short name

Digits, blanks and parts of words have a letter, of which the capital one stands for the complement;
some sets of ASCII characters have a name.
-/
namespace GraphAnswers.Text.CharacterSet

/-! ### Sets with a letter -/

/-- Decimal digits. -/
def digit (ascii : Bool) : CharacterSet :=
  if ascii then inAscii Char.isDigit 1 else ⟨fun c => Category.of c == .nd, roomFor 71⟩

/-- Blank characters. -/
def blank (ascii : Bool) : CharacterSet :=
  if ascii then inAscii isBlank 2 else ⟨isBlank, roomFor 10⟩

/-- Parts of words. -/
def wordPart (ascii : Bool) : CharacterSet :=
  if ascii then inAscii isWordPart 4 else ⟨isWordPart, roomFor 771⟩

/-- The set of a letter. -/
def ofLetter? (ascii : Bool) (letter : Char) : Option CharacterSet :=
  match letter with
  | 'd' => some (digit ascii)
  | 's' => some (blank ascii)
  | 'w' => some (wordPart ascii)
  | 'D' => some (digit ascii).complement
  | 'S' => some (blank ascii).complement
  | 'W' => some (wordPart ascii).complement
  | _ => .none

/-! ### Sets of ASCII with a name -/

/-- The set of a name. -/
def ofName? (name : String) : Option CharacterSet :=
  let isShown (c : Char) : Bool := '!' ≤ c && c ≤ '~'
  match name with
  | "alnum" => some (inAscii Char.isAlphanum 3)
  | "alpha" => some (inAscii Char.isAlpha 2)
  | "ascii" => some (inAscii (fun _ => true) 1)
  | "blank" => some (inAscii (fun c => c == '\t' || c == ' ') 2)
  | "cntrl" => some (inAscii (fun c => c.toNat < 0x20 || c == '\x7f') 2)
  | "digit" => some (inAscii Char.isDigit 1)
  | "graph" => some (inAscii isShown 1)
  | "lower" => some (inAscii Char.isLower 1)
  | "print" => some (inAscii (fun c => c == ' ' || isShown c) 1)
  | "punct" => some (inAscii (fun c => isShown c && !c.isAlphanum) 4)
  | "space" => some (inAscii isBlank 2)
  | "upper" => some (inAscii Char.isUpper 1)
  | "word" => some (inAscii (fun c => c.isAlphanum || c == '_') 4)
  | "xdigit" => some (inAscii
      (fun c => c.isDigit || ('a' ≤ c && c ≤ 'f') || ('A' ≤ c && c ≤ 'F')) 3)
  | _ => .none

end GraphAnswers.Text.CharacterSet
