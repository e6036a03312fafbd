import GraphAnswers.Settings.Toml
import GraphAnswers.Text.Reader
import GraphAnswers.Text.Words
/-!
# Scalars of TOML

Texts in their four notations, and the words that stand for numbers, truth values and moments.  A
word is read as a whole and then recognised: `scalar?` says what it stands for.
-/
namespace GraphAnswers.Toml

open GraphAnswers.Text

/-! ### Texts -/

/-- Whether a character may stand in a comment or between quotes: no control character but the
tab. -/
def isPlain (c : Char) : Bool := c == '\t' || (' ' ≤ c && c != '\x7f')

/-- The character with a number. -/
def scalarChar? (n : Nat) : Option Char := if h : n.isValidChar then some (Char.ofNatAux n h) else none

/-- An end of line, as it stands. -/
def newline : Reader Char (List Char) :=
  (do Reader.char '\n'; pure ['\n']) <|> (do Reader.string "\r\n"; pure ['\r', '\n'])

/-- What an escape stands for, after its backslash. -/
def escape : Reader Char Char := do
  let named ← Reader.one fun c => "btnfre\"\\xuU".toList.contains c
  let coded (digits : Nat) : Reader Char Char := do
    let number ← Reader.hexNumber digits
    StateT.lift (scalarChar? number)
  match named with
  | 'b' => pure '\x08'
  | 't' => pure '\t'
  | 'n' => pure '\n'
  | 'f' => pure '\x0c'
  | 'r' => pure '\r'
  | 'e' => pure '\x1b'
  | 'x' => coded 2
  | 'u' => coded 4
  | 'U' => coded 8
  | other => pure other

/-- A text in double quotes, after the first. -/
def quoted : Reader Char String := do
  let item : Reader Char Char := (do Reader.char '\\'; escape) <|>
    Reader.one fun c => isPlain c && c != '"' && c != '\\'
  let cs ← Reader.many item
  Reader.char '"'
  pure (String.ofList cs)

/-- A text in single quotes, after the first. -/
def verbatim : Reader Char String := do
  let cs ← Reader.many (Reader.one fun c => isPlain c && c != '\'')
  Reader.char '\''
  pure (String.ofList cs)

/-- One or two quotes that do not belong to the three that close a text, or belong to them because
there are more than three in a row. -/
def innerQuotes (quote : Char) : Reader Char (List Char) := fun rest =>
  let row := (rest.takeWhile (· == quote)).length
  let inner := if row < 3 then row else if row ≤ 5 then row - 3 else 0
  if inner = 0 then none else some (List.replicate inner quote, rest.drop inner)

/-- A text over several lines, after its three opening quotes: a line end right after them does not
count, the others stay as they stand. -/
def overLines (quote : Char) (item : Reader Char (List Char)) : Reader Char String := do
  let _ ← Reader.optional? newline
  let parts ← Reader.many (innerQuotes quote <|> newline <|> item)
  Reader.string (String.ofList [quote, quote, quote])
  pure (String.ofList parts.flatten)

/-- A backslash that ends a line takes the blank space after it along. -/
def continuation : Reader Char (List Char) := do
  Reader.char '\\'
  let isSpace (c : Char) : Bool := c == ' ' || c == '\t'
  let _ ← Reader.run isSpace
  let _ ← newline
  let _ ← Reader.many ((do pure [← Reader.one isSpace]) <|> newline)
  pure []

/-- A text over several lines in double quotes, after the first three. -/
def quotedLines : Reader Char String :=
  overLines '"' <| continuation <|> (do Reader.char '\\'; pure [← escape]) <|>
    (do pure [← Reader.one fun c => isPlain c && c != '"' && c != '\\'])

/-- A text over several lines in single quotes, after the first three. -/
def verbatimLines : Reader Char String :=
  overLines '\'' (do pure [← Reader.one fun c => isPlain c && c != '\''])

/-- A text on one line, in either kind of quotes. -/
def lineText : Reader Char String :=
  (do Reader.char '"'; quoted) <|> (do Reader.char '\''; verbatim)

/-- A text in any notation. -/
def text? : Reader Char String :=
  (do Reader.string "\"\"\""; quotedLines) <|> (do Reader.string "'''"; verbatimLines) <|> lineText

/-! ### Numbers -/

/-- The value of digits in a base, where single underscores may stand between digits. -/
def digitsIn? (isDigit : Char → Bool) (base : Nat) (cs : List Char) : Option Nat :=
  let groups := splitWhere (· == '_') cs
  let value (c : Char) : Nat :=
    if c.isDigit then c.toNat - '0'.toNat else c.toLower.toNat - 'a'.toNat + 10
  if groups.all fun g => !g.isEmpty && g.all isDigit then
    some (groups.flatten.foldl (fun v c => v * base + value c) 0)
  else none

/-- The value of decimal digits. -/
def decimal? (cs : List Char) : Option Nat := digitsIn? Char.isDigit 10 cs

/-- The value of decimal digits without needless zeros in front. -/
def plainDecimal? (cs : List Char) : Option Nat :=
  match cs with
  | '0' :: _ :: _ => none
  | _ => decimal? cs

/-- What a word denotes after its sign, and whether it has one. -/
def signed (cs : List Char) : Int × List Char :=
  match cs with
  | '-' :: rest => (-1, rest)
  | '+' :: rest => (1, rest)
  | _ => (1, cs)

/-- The integer that a word denotes. -/
def integer? (cs : List Char) : Option Int :=
  let isHex (c : Char) : Bool := c.isDigit || ('a' ≤ c && c ≤ 'f') || ('A' ≤ c && c ≤ 'F')
  match cs with
  | '0' :: 'x' :: digits => (digitsIn? isHex 16 digits).map Int.ofNat
  | '0' :: 'o' :: digits => (digitsIn? (fun c => '0' ≤ c && c ≤ '7') 8 digits).map Int.ofNat
  | '0' :: 'b' :: digits => (digitsIn? (fun c => c == '0' || c == '1') 2 digits).map Int.ofNat
  | _ =>
    let (sign, digits) := signed cs
    (plainDecimal? digits).map fun n => sign * Int.ofNat n

/-- The number with a fraction or an exponent that a word denotes, its sign left out: a natural number
and the power of ten it is multiplied with. -/
def fraction? (cs : List Char) : Option (Nat × Int) := do
  let number := (signed cs).2
  let isMark (c : Char) : Bool := c == 'e' || c == 'E'
  let mantissa := number.takeWhile (!isMark ·)
  let whole := mantissa.takeWhile (· != '.')
  let _ ← plainDecimal? whole
  let places ←
    if mantissa.contains '.' then do
      let places := (mantissa.dropWhile (· != '.')).drop 1
      let _ ← decimal? places
      pure (places.filter Char.isDigit)
    else if number.any isMark then some [] else none
  let exponent ←
    if number.any isMark then do
      let (sign, digits) := signed ((number.dropWhile (!isMark ·)).drop 1)
      pure (sign * Int.ofNat (← decimal? digits))
    else some 0
  pure (← decimal? (whole ++ places), exponent - places.length)

/-- Whether `n · 10 ^ e` stays finite in double precision: it is nearer to a number of 53 binary digits
with the greatest exponent than to the power of two above them all. -/
def isFinite (n : Nat) (e : Int) : Bool :=
  let digits := (toString n).length
  if n = 0 ∨ e + digits ≤ 300 then true
  else if 310 < e + digits then false
  else n * Nat.pow 10 e.toNat < (Nat.pow 2 54 - 1) * Nat.pow 2 970 * Nat.pow 10 (-e).toNat

/-- Whether a word stands for what is no number or none that is finite. -/
def isBeyond (cs : List Char) : Bool :=
  let name := (signed cs).2
  name == "inf".toList || name == "nan".toList

/-! ### Moments -/

/-- A number of exactly `n` digits, at most `bound`. -/
def fixedDigits (n bound : Nat) : Reader Char Nat := fun rest =>
  let digits := rest.take n
  let value := digits.foldl (fun v c => v * 10 + (c.toNat - '0'.toNat)) 0
  if digits.length = n ∧ digits.all Char.isDigit ∧ value ≤ bound then some (value, rest.drop n)
  else none

/-- The number of days of a month. -/
def daysIn (year month : Nat) : Nat :=
  if month = 2 then
    if year % 4 = 0 ∧ (year % 100 ≠ 0 ∨ year % 400 = 0) then 29 else 28
  else if month = 4 ∨ month = 6 ∨ month = 9 ∨ month = 11 then 30 else 31

/-- A date. -/
def date : Reader Char Unit := do
  let year ← fixedDigits 4 9999
  Reader.char '-'
  let month ← fixedDigits 2 12
  Reader.char '-'
  let day ← fixedDigits 2 (daysIn year month)
  if month = 0 ∨ day = 0 then failure

/-- A time of day; its seconds and their fraction may be left out. -/
def time : Reader Char Unit := do
  let _ ← fixedDigits 2 23
  Reader.char ':'
  let _ ← fixedDigits 2 59
  let seconds : Reader Char Unit := do
    Reader.char ':'
    let _ ← fixedDigits 2 60
    let _ ← Reader.optional? do
      Reader.char '.'
      let _ ← Reader.one Char.isDigit
      Reader.run Char.isDigit
  let _ ← Reader.optional? seconds

/-- An offset from universal time. -/
def offset : Reader Char Unit :=
  (do let _ ← Reader.one fun c => c == 'Z' || c == 'z') <|> do
    let _ ← Reader.one fun c => c == '+' || c == '-'
    let _ ← fixedDigits 2 23
    Reader.char ':'
    let _ ← fixedDigits 2 59

/-- A date, a time, or both; the latter may have an offset. -/
def instant : Reader Char Unit :=
  (do
    date
    let _ ← Reader.optional? do
      let _ ← Reader.one fun c => c == 'T' || c == 't' || c == ' '
      time
      Reader.optional? offset) <|> time

/-! ### Words -/

/-- Whether a file may hold an integer: it fits 128 bits, with or without a sign. -/
def isStorable (i : Int) : Bool :=
  -170141183460469231731687303715884105728 ≤ i && i ≤ 340282366920938463463374607431768211455

/-- What a word stands for. -/
def scalar? (word : List Char) : Option Toml :=
  if word == "true".toList then some (.boolean true)
  else if word == "false".toList then some (.boolean false)
  else
    match integer? word with
    | some i => if isStorable i then some (.integer i) else none
    | none =>
      if isBeyond word then some .fraction
      else
        match fraction? word with
        | some (n, e) => if isFinite n e then some .fraction else none
        | none => (Reader.whole instant word).map fun _ => .moment

/-- Whether a character may stand in a word. -/
def isWordChar (c : Char) : Bool := c.isAlphanum || "+-._:".toList.contains c

/-- A word.  After a date, one space may be part of it, if a time follows. -/
def word : Reader Char (List Char) := do
  let first ← Reader.run isWordChar
  let spaced : Reader Char (List Char) := fun rest =>
    match rest with
    | ' ' :: a :: b :: ':' :: more =>
      if (Reader.whole date first).isSome ∧ a.isDigit ∧ b.isDigit then
        some (' ' :: a :: b :: ':' :: more.takeWhile isWordChar, more.dropWhile isWordChar)
      else none
    | _ => none
  pure (first ++ (← Reader.optional? spaced).getD [])

/-- A value that is a single word. -/
def scalar : Reader Char Toml := do
  StateT.lift (scalar? (← word))

end GraphAnswers.Toml
