import GraphAnswers.Text.Blank
/-!
# Reading the text of a pattern

What scanners of patterns share: options such as `(?i)`, which hold from where they stand to the end of
their group, and the steps on the characters to come.  One option lets blanks and comments stand
between the parts of a pattern.
-/
namespace GraphAnswers.Text.Pattern

/-! ### Options -/

/-- How what follows is to be read. -/
structure Options where
  /-- Whether case does not matter. -/
  ignoresCase : Bool := false
  /-- Whether `^` and `$` fit at every line. -/
  byLine : Bool := false
  /-- Whether a dot takes the end of a line, too. -/
  dotTakesAll : Bool := false
  /-- Whether a carriage return belongs to the end of a line. -/
  takesReturn : Bool := false
  /-- Whether sets of characters are those of ASCII, not of Unicode. -/
  isAscii : Bool := false
  /-- Whether blanks and comments are left out. -/
  skipsBlanks : Bool := false
  deriving DecidableEq, Repr

/-- Sets the option of a letter.  That of `U`, by which repetitions take little, does not matter for
what fits. -/
def Options.set? (o : Options) (letter : Char) (value : Bool) : Option Options :=
  match letter with
  | 'i' => some { o with ignoresCase := value }
  | 'm' => some { o with byLine := value }
  | 's' => some { o with dotTakesAll := value }
  | 'R' => some { o with takesReturn := value }
  | 'u' => some { o with isAscii := !value }
  | 'x' => some { o with skipsBlanks := value }
  | 'U' => some o
  | _ => none

/-- Sets the options of letters; those after a hyphen are taken back.  Nothing may stand twice, and a
letter must follow the hyphen. -/
def Options.setAll? (o : Options) (letters : List Char) : Option Options :=
  if letters.eraseDups.length < letters.length ∨ letters.getLast? = some '-' then none
  else
    let given := letters.takeWhile (· != '-')
    let taken := (letters.dropWhile (· != '-')).drop 1
    do taken.foldlM (fun o c => o.set? c false) (← given.foldlM (fun o c => o.set? c true) o)

/-! ### Scanners -/

/-- What is being read: the characters to come, the options, and the names of groups so far. -/
structure Reading where
  rest : List Char
  options : Options := {}
  names : List String := []

/-- What reads a beginning of the characters to come. -/
abbrev Scanner (α : Type) := StateT Reading Option α

namespace Scanner

/-- The options here. -/
def options : Scanner Options := do pure (← get).options

/-- The character to come. -/
def peek : Scanner (Option Char) := do pure (← get).rest.head?

/-- Goes on after a number of characters. -/
def skip (n : Nat) : Scanner Unit := modify fun r => { r with rest := r.rest.drop n }

/-- The next character. -/
def next : Scanner Char := do
  match ← peek with
  | some c => skip 1; pure c
  | none => failure

/-- Whether a text comes; if so, it is read. -/
def accepts (text : String) : Scanner Bool := do
  if text.toList.isPrefixOf (← get).rest then skip text.length; pure true else pure false

/-- One character that has to come. -/
def expect (c : Char) : Scanner Unit := do
  if (← next) != c then failure

/-- The characters to come that satisfy `p`. -/
def run (p : Char → Bool) : Scanner (List Char) := do
  let found := (← get).rest.takeWhile p
  skip found.length
  pure found

/-- What remains after blanks and comments; the number bounds how many there are. -/
def afterBlanks : Nat → List Char → List Char
  | 0, cs => cs
  | n + 1, cs =>
    match cs with
    | '#' :: rest => afterBlanks n ((rest.dropWhile (· != '\n')).drop 1)
    | c :: rest => if isBlank c then afterBlanks n rest else c :: rest
    | [] => []

/-- Leaves out blanks and comments, if that is an option. -/
def skipBlanks : Scanner Unit := modify fun r =>
  if r.options.skipsBlanks then { r with rest := afterBlanks r.rest.length r.rest } else r

/-- At most a number of characters that satisfy `p`; blanks may stand after each. -/
def spacedUpTo (p : Char → Bool) : Nat → Scanner (List Char)
  | 0 => pure []
  | n + 1 => do
    match ← peek with
    | some c =>
      if p c then
        skip 1
        skipBlanks
        pure (c :: (← spacedUpTo p n))
      else pure []
    | none => pure []

/-- The characters to come that satisfy `p`; blanks may stand after each. -/
def spaced (p : Char → Bool) : Scanner (List Char) := do spacedUpTo p (← get).rest.length

/-- The character after the one to come.  Where blanks are left out, it is the one after any blanks
and at most one sign of a comment, if there is one. -/
def peekBeyond : Scanner (Option Char) := do
  let r ← get
  let after := r.rest.drop 1
  if r.options.skipsBlanks then
    let beyond := after.dropWhile isBlank
    let beyond :=
      if beyond.head? == some '#' then (beyond.drop 1).dropWhile isBlank else beyond
    pure (beyond.head?.or after.head?)
  else pure after.head?

end Scanner

/-! ### Depth -/

/-- Something read, with how many parts are nested in it. -/
structure Nested (α : Type) where
  value : α
  depth : Nat

/-- The depth of what is made of parts: one more than the deepest, unless it is a single part. -/
def depthOf (parts : List Nat) : Nat :=
  match parts with
  | [] => 0
  | [depth] => depth
  | depths => depths.foldl max 0 + 1

end GraphAnswers.Text.Pattern
