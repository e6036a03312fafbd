import GraphAnswers.Text.Reader
/-!
# JSON values

What a file of evaluation cases holds.  A text may be written with escapes that stand for no
character, that is, for one half of a pair; such a text is told apart (`none`), since it matters only
where a text is needed.  What number a number is does not matter here.
-/
namespace GraphAnswers.Evaluation

open Text

/-- A value of a file in JSON. -/
inductive Json where
  | null
  | boolean
  | number
  | text (s : Option String)
  | array (items : List Json)
  | object (entries : List (Option String × Json))
  deriving Repr

namespace Json

/-- Blank space. -/
def gap : Reader Char Unit := do
  let _ ← Reader.run fun c => c == ' ' || c == '\t' || c == '\n' || c == '\r'

/-- A piece of a text: a character, or a unit given by its number. -/
inductive Piece where
  | char (c : Char)
  | unit (n : Nat)

/-- The text of pieces: a unit of the first half must be followed by one of the second. -/
def assemble : List Piece → Option (List Char)
  | [] => some []
  | .char c :: rest => (assemble rest).map (c :: ·)
  | .unit n :: rest =>
    if n < 0xD800 ∨ 0xE000 ≤ n then (assemble rest).map (Char.ofNat n :: ·)
    else
      match rest with
      | .unit m :: rest =>
        if n < 0xDC00 ∧ 0xDC00 ≤ m ∧ m < 0xE000 then
          (assemble rest).map (Char.ofNat (0x10000 + (n - 0xD800) * 0x400 + (m - 0xDC00)) :: ·)
        else none
      | _ => none

/-- An escape, after its backslash. -/
def escape : Reader Char Piece := do
  let named ← Reader.one fun c => "\"\\/bfnrtu".toList.contains c
  match named with
  | 'b' => pure (.char '\x08')
  | 'f' => pure (.char '\x0c')
  | 'n' => pure (.char '\n')
  | 'r' => pure (.char '\r')
  | 't' => pure (.char '\t')
  | 'u' => do pure (.unit (← Reader.hexNumber 4))
  | other => pure (.char other)

/-- A text. -/
def string : Reader Char (Option String) := do
  Reader.char '"'
  let item : Reader Char Piece := (do Reader.char '\\'; escape) <|>
    (do pure (.char (← Reader.one fun c => ' ' ≤ c && c != '"' && c != '\\')))
  let pieces ← Reader.many item
  Reader.char '"'
  pure ((assemble pieces).map String.ofList)

/-- At least one digit. -/
def digits : Reader Char Unit := do
  let _ ← Reader.one Char.isDigit
  let _ ← Reader.run Char.isDigit

/-- A number. -/
def numeral : Reader Char Unit := do
  let _ ← Reader.optional? (Reader.char '-')
  Reader.char '0' <|> digits
  let _ ← Reader.optional? do
    Reader.char '.'
    digits
  let marked : Reader Char Unit := do
    let _ ← Reader.one fun c => c == 'e' || c == 'E'
    let _ ← Reader.optional? (Reader.one fun c => c == '+' || c == '-')
    digits
  let next ← Reader.peek
  if next == some 'e' || next == some 'E' then marked

/-- Things between brackets, after the first bracket. -/
def listed {α : Type} (item : Reader Char α) (close : Char) : Reader Char (List α) := do
  gap
  let empty : Reader Char (List α) := do
    Reader.char close
    pure []
  empty <|> do
    let items ← Reader.separated (do gap; Reader.char ','; gap) item
    gap
    Reader.char close
    pure items

/-- A value; the number bounds how deeply brackets are nested. -/
def value : Nat → Reader Char Json
  | 0 => failure
  | n + 1 => do
    match ← Reader.peek with
    | some '"' => do pure (.text (← string))
    | some '[' => do
      Reader.char '['
      pure (.array (← listed (value n) ']'))
    | some '\x7b' => do
      Reader.char '\x7b'
      let entry : Reader Char (Option String × Json) := do
        let key ← string
        gap
        Reader.char ':'
        gap
        pure (key, ← value n)
      pure (.object (← listed entry '\x7d'))
    | some 'n' => do Reader.string "null"; pure .null
    | some 't' => do Reader.string "true"; pure .boolean
    | some 'f' => do Reader.string "false"; pure .boolean
    | _ => do numeral; pure .number

/-- The value that a text is, blank space around it left out. -/
def ofText? (source : String) : Option Json :=
  let cs := source.toList
  Reader.whole (do gap; let v ← value cs.length; gap; pure v) cs

end Json

end GraphAnswers.Evaluation
