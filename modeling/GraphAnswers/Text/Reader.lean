/-!
# Readers

A reader takes a beginning off a list of characters (or of other things), and gives what it stands
for and the rest, or it gives nothing.  Alternatives start from the same place.  A repetition stops
where its item cannot be read; it cannot go on for more rounds than there were things to read, so it
needs no other bound.
-/
namespace GraphAnswers.Text

/-- What takes a beginning off a list. -/
abbrev Reader (τ α : Type) := StateT (List τ) Option α

namespace Reader

variable {τ α : Type}

/-- What comes next, without taking it. -/
def peek : Reader τ (Option τ) := fun rest => some (rest.head?, rest)

/-- The next thing, if it satisfies `p`. -/
def one (p : τ → Bool) : Reader τ τ
  | [] => none
  | a :: rest => if p a then some (a, rest) else none

/-- Succeeds at the end only. -/
def atEnd : Reader τ Unit
  | [] => some ((), [])
  | _ => none

/-- The longest stretch of things that satisfy `p`. -/
def run (p : τ → Bool) : Reader τ (List τ) := fun rest =>
  some (rest.takeWhile p, rest.dropWhile p)

/-- What `item` reads, if it can be read. -/
def optional? (item : Reader τ α) : Reader τ (Option α) := fun rest =>
  match item rest with
  | some (a, rest) => some (some a, rest)
  | none => some (none, rest)

/-- What `item` reads again and again, at most `n` times. -/
def manyWithin (item : Reader τ α) : Nat → Reader τ (List α)
  | 0 => pure []
  | n + 1 => fun rest =>
    match item rest with
    | some (a, rest) => (do pure (a :: (← manyWithin item n))) rest
    | none => some ([], rest)

/-- What `item` reads as often as it can be read. -/
def many (item : Reader τ α) : Reader τ (List α) := fun rest => manyWithin item rest.length rest

/-- What `item` reads, once or more often, with `separator` in between. -/
def separated (separator : Reader τ Unit) (item : Reader τ α) : Reader τ (List α) := do
  let first ← item
  let more ← many (do separator; item)
  pure (first :: more)

/-- What a reader makes of a whole list. -/
def whole (reader : Reader τ α) (all : List τ) : Option α :=
  match reader all with
  | some (a, []) => some a
  | _ => none

/-! ### Characters -/

/-- One character. -/
def char (c : Char) : Reader Char Unit := do
  let _ ← one (· == c)

/-- The characters of a text. -/
def string (s : String) : Reader Char Unit := s.toList.forM char

/-- A number of `n` hexadecimal digits. -/
def hexNumber (n : Nat) : Reader Char Nat := fun rest =>
  let digits := rest.take n
  let value (c : Char) : Nat :=
    if c.isDigit then c.toNat - '0'.toNat else c.toLower.toNat - 'a'.toNat + 10
  let isHex (c : Char) : Bool := c.isDigit || ('a' ≤ c && c ≤ 'f') || ('A' ≤ c && c ≤ 'F')
  if digits.length = n ∧ digits.all isHex then
    some (digits.foldl (fun v c => v * 16 + value c) 0, rest.drop n)
  else none

end Reader

end GraphAnswers.Text
