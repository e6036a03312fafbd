import GraphAnswers.Settings.Toml.Scalar
/-!
# TOML documents

A document is a run of lines: headers, each of which opens a table, and keys with their values, which
go into the table opened last.  Comments run from `#` to the end of the line.  In brackets and
braces, ends of lines and comments may stand between any two things, and a comma may follow the last.
-/
namespace GraphAnswers.Toml

open GraphAnswers.Text

/-! ### Between things -/

/-- Spaces and tabs. -/
def gap : Reader Char Unit := do
  let _ ← Reader.run fun c => c == ' ' || c == '\t'

/-- A comment, up to the end of the line. -/
def comment : Reader Char Unit := do
  Reader.char '#'
  let _ ← Reader.run isPlain

/-- Spaces, comments and ends of lines. -/
def wideGap : Reader Char Unit := do
  let ended : Reader Char Unit := do let _ ← newline
  let _ ← Reader.many ((do let _ ← Reader.one fun c => c == ' ' || c == '\t') <|> comment <|> ended)

/-- What may follow a thing on its line. -/
def endOfLine : Reader Char Unit := do
  gap
  let _ ← Reader.optional? comment
  (do let _ ← newline) <|> Reader.atEnd

/-! ### Keys -/

/-- Whether a character may stand in a key without quotes. -/
def isKeyChar (c : Char) : Bool := c.isAlphanum || c == '_' || c == '-'

/-- One part of a key. -/
def simpleKey : Reader Char String := lineText <|> do
  let first ← Reader.one isKeyChar
  pure (String.ofList (first :: (← Reader.run isKeyChar)))

/-- How deeply brackets and braces may be nested, and how many parts a key may have. -/
def maxDepth : Nat := 80

/-- A key: parts with dots in between, not too many of them. -/
def key : Reader Char (List String) := do
  let parts ← Reader.separated (do gap; Reader.char '.'; gap) simpleKey
  if parts.length ≤ maxDepth then pure parts else failure

/-! ### Values -/

/-- Things in brackets, after the first bracket. -/
def listed {α : Type} (item : Reader Char α) (close : Char) : Reader Char (List α) := do
  wideGap
  let comma : Reader Char Unit := do wideGap; Reader.char ','; wideGap
  let items ← Reader.optional? (Reader.separated comma item)
  if items.isSome then
    let _ ← Reader.optional? comma
  wideGap
  Reader.char close
  pure (items.getD [])

/-- A key and its value. -/
def assignment (value : Reader Char Toml) : Reader Char (List String × Toml) := do
  let path ← key
  gap
  Reader.char '='
  gap
  pure (path, ← value)

/-- A value without brackets or braces around it. -/
def plainValue : Reader Char Toml := do
  match ← Reader.peek with
  | some '"' | some '\'' => pure (.text (← text?))
  | _ => scalar

/-- A value; the number bounds how deeply brackets and braces are nested. -/
def value : Nat → Reader Char Toml
  | 0 => plainValue
  | n + 1 => do
    match ← Reader.peek with
    | some '[' =>
      Reader.char '['
      pure (.array false (← listed (value n) ']'))
    | some '\x7b' =>
      Reader.char '\x7b'
      let entries ← listed (assignment (value n)) '\x7d'
      StateT.lift do
        pure (.table .braces (← entries.foldlM (fun t e => insert t e.1 e.2) []))
    | _ => plainValue

/-! ### Lines -/

/-- A line of a document. -/
inductive Line where
  /-- Opens a table. -/
  | table (path : List String)
  /-- Opens a new element of a list of tables. -/
  | element (path : List String)
  /-- Adds to the table opened last. -/
  | entry (path : List String) (value : Toml)
  /-- Adds nothing. -/
  | blank

/-- What stands on a line. -/
def line : Reader Char Line := do
  gap
  match ← Reader.peek with
  | some '[' =>
    Reader.char '['
    if (← Reader.optional? (Reader.char '[')).isSome then
      gap
      let path ← key
      gap
      Reader.string "]]"
      pure (.element path)
    else
      gap
      let path ← key
      gap
      Reader.char ']'
      pure (.table path)
  | none | some '#' | some '\n' | some '\r' => pure .blank
  | some _ =>
    let (path, v) ← assignment (value maxDepth)
    pure (.entry path v)

/-- The lines of a document; the number bounds how many there are. -/
def lines : Nat → Reader Char (List Line)
  | 0 => do Reader.atEnd; pure []
  | n + 1 => fun rest =>
    if rest.isEmpty then some ([], [])
    else (do
      let first ← line
      endOfLine
      pure (first :: (← lines n))) rest

/-- A document that is being put together: what it holds so far, and the table opened last. -/
structure Draft where
  entries : Entries := []
  current : List String := []

/-- Adds a line. -/
def Draft.add (d : Draft) : Line → Option Draft
  | .table path => do pure { entries := ← openTable path d.entries, current := path }
  | .element path => do pure { entries := ← openElement path d.entries, current := path }
  | .entry path v => do
    pure { d with entries := ← within (insert · path v) d.current d.entries }
  | .blank => some d

/-- What a document holds. -/
def document? (source : String) : Option Entries :=
  let cs := match source.toList with
    | '\ufeff' :: cs => cs
    | cs => cs
  match Reader.whole (lines cs.length) cs with
  | none => none
  | some found => (found.foldlM Draft.add {}).map Draft.entries

end GraphAnswers.Toml
