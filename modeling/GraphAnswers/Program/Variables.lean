import GraphAnswers.Dump.Lines
import GraphAnswers.Text.Alphabetic
import GraphAnswers.Text.Utf8
/-!
# Variables

The variables that a program finds set, and the file of variables beside it.  A line of the file
gives one, `NAME=value`, possibly after the word `export`; a variable that is set already keeps its
value.  A value may be quoted, in single quotes as it is and in double quotes with escapes, and `$NAME`
or `${NAME}` outside single quotes stands for the value of a variable, where a name without braces
goes on as long as letters and numbers of any language do.  After a blank only a comment may follow.
The first line that cannot be read ends the file.  No variable can be set to a value with the
character NUL: a program that is to do so ends.
-/
namespace GraphAnswers

/-- Variables and their values, each variable once. -/
abbrev Variables := List (String × String)

namespace Variables

/-- The value of a variable. -/
def value? (vs : Variables) (name : String) : Option String := vs.lookup name

/-- Why the lines of a file are not read on. -/
inductive Stop where
  /-- A line cannot be read. -/
  | unreadable
  /-- A variable cannot be set to its value. -/
  | impossible
  deriving DecidableEq, Repr

/-- Sets a variable that is not set. -/
def define (vs : Variables) (name value : String) : Except Stop Variables :=
  if (vs.value? name).isSome then .ok vs
  else if value.toList.contains '\x00' then .error .impossible
  else .ok (vs ++ [(name, value)])

/-! ### Values -/

/-- Where in a value a character stands. -/
inductive Place where
  /-- Where characters stand for themselves. -/
  | plain
  /-- In single quotes. -/
  | verbatim
  /-- After a backslash. -/
  | escaped
  /-- In the name of a variable. -/
  | name (letters : List Char)
  /-- In the name of a variable in braces. -/
  | braced (letters : List Char)
  /-- After the blank that ends the value. -/
  | ended
  /-- In a comment. -/
  | comment

/-- A value that is being read: the characters so far, where the next one stands, and whether that is
in double quotes. -/
structure Reading where
  characters : List Char := []
  place : Place := .plain
  isQuoted : Bool := false

namespace Reading

/-- Adds characters. -/
def add (r : Reading) (cs : List Char) : Reading := { r with characters := r.characters ++ cs }

/-- Adds the value of a variable; one that is not set has none. -/
def addVariable (r : Reading) (vs : Variables) (letters : List Char) : Reading :=
  r.add (((vs.value? (String.ofList letters)).getD "").toList)

/-- Reads a character that stands where characters stand for themselves. -/
def stepPlain (r : Reading) (c : Char) : Reading :=
  if c = '$' then { r with place := .name [] }
  else if c = '\\' then { r with place := .escaped }
  else if c = '"' then { r with isQuoted := !r.isQuoted }
  else if r.isQuoted then r.add [c]
  else if c = '\'' then { r with place := .verbatim }
  else if c = ' ' ∨ c = '\t' then { r with place := .ended }
  else r.add [c]

/-- Reads a character.  What ends a name stands for itself, whatever it is. -/
def step (vs : Variables) (r : Reading) (c : Char) : Option Reading :=
  match r.place with
  | .plain => some (r.stepPlain c)
  | .verbatim => some (if c = '\'' then { r with place := .plain } else r.add [c])
  | .escaped =>
    if "\\'\"$ ".toList.contains c then some { r.add [c] with place := .plain }
    else if c = 'n' then some { r.add ['\n'] with place := .plain }
    else none
  | .name letters =>
    if Text.isAlphanumeric c then some { r with place := .name (letters ++ [c]) }
    else if c = '\x7b' ∧ letters.isEmpty then some { r with place := .braced [] }
    else
      let r := r.addVariable vs letters
      some (if c = '$' then { r with place := .name [] } else { r.add [c] with place := .plain })
  | .braced letters =>
    if c = '\x7d' then some { r.addVariable vs letters with place := .plain }
    else some { r with place := .braced (letters ++ [c]) }
  | .ended =>
    if c = ' ' ∨ c = '\t' then some r
    else if c = '#' then some { r with place := .comment }
    else none
  | .comment => some r

/-- The value, if it may end here. -/
def finish (vs : Variables) (r : Reading) : Option String :=
  match r.place with
  | .verbatim | .braced _ => none
  | .name letters =>
    if r.isQuoted then none else some (String.ofList (r.addVariable vs letters).characters)
  | _ => if r.isQuoted then none else some (String.ofList r.characters)

end Reading

/-- The value that characters stand for. -/
def valueOf? (vs : Variables) (cs : List Char) : Option String :=
  (cs.foldlM (Reading.step vs) {}).bind (Reading.finish vs)

/-! ### Lines -/

/-- The name that a line opens with, and what follows it. -/
def nameOf? (cs : List Char) : Option (String × List Char) :=
  let isPart (c : Char) : Bool := c.isAlphanum || c == '_' || c == '.'
  match cs with
  | [] => none
  | c :: _ =>
    if c.isAlpha || c == '_' then
      some (String.ofList (cs.takeWhile isPart), Text.trimFront (cs.dropWhile isPart))
    else none

/-- The name of a line's variable, and what follows the equals sign. -/
def assignment? (cs : List Char) : Option (String × List Char) :=
  match nameOf? cs with
  | some (name, '=' :: rest) => some (name, rest)
  | some ("export", rest) =>
    match nameOf? rest with
    | some (name, '=' :: rest) => some (name, rest)
    | _ => none
  | _ => none

/-- Sets the variable of a line. -/
def readLine (vs : Variables) (line : String) : Except Stop Variables :=
  match Text.trimmed line.toList with
  | [] => .ok vs
  | '#' :: _ => .ok vs
  | cs =>
    match assignment? cs with
    | none => .error .unreadable
    | some (name, rest) =>
      match Text.trimFront rest with
      | [] => vs.define name ""
      | '#' :: _ => vs.define name ""
      | cs =>
        match valueOf? vs cs with
        | none => .error .unreadable
        | some value => vs.define name value

/-- Sets the variables of lines, up to the first that cannot be read; `none` if one cannot be set. -/
def readLines (vs : Variables) : List (List UInt8) → Option Variables
  | [] => some vs
  | octets :: rest =>
    match Text.ofOctets? octets with
    | none => some vs
    | some line =>
      match vs.readLine line with
      | .ok vs => readLines vs rest
      | .error .unreadable => some vs
      | .error .impossible => none

/-- Sets the variables of a file; `none` if one cannot be set. -/
def readFile (vs : Variables) (octets : List UInt8) : Option Variables :=
  vs.readLines (Dump.splitLines octets)

end Variables

end GraphAnswers
