import GraphAnswers.Text.CharacterSet.Property
import GraphAnswers.Text.Pattern.Reading
/-!
# What a backslash stands for in a pattern

A backslash takes the meaning of signs away and gives one to letters: they stand for characters by
name or by number, for sets of characters, and for conditions on a place.  A letter without a meaning
is no pattern.
-/
namespace GraphAnswers.Text.Pattern

open Scanner

/-- What an escape stands for. -/
inductive Escape where
  | character (c : Char)
  | among (s : CharacterSet)
  | place (holds : Option Char → Option Char → Bool)

namespace Escape

/-! ### Places -/

/-- A condition on what is at the two sides of a place: whether it is part of a word. -/
def bySides (isAscii : Bool) (holds : Bool → Bool → Bool) (before after : Option Char) : Bool :=
  let isPart (c : Option Char) : Bool := c.any (CharacterSet.wordPart isAscii).has
  holds (isPart before) (isPart after)

/-- The condition with a name. -/
def edge? (name : String) : Option (Bool → Bool → Bool) :=
  match name with
  | "start" => some fun before after => !before && after
  | "end" => some fun before after => before && !after
  | "start-half" => some fun before _ => !before
  | "end-half" => some fun _ after => !after
  | _ => none

/-- The condition named in braces after `\b`; `none` if the braces hold no name, which are not read
then. -/
def namedEdge? : Scanner (Option (Bool → Bool → Bool)) := do
  let before ← get
  let isPart (c : Char) : Bool := c.isAlpha || c == '-'
  if ← accepts "\x7b" then
    skipBlanks
    match ← peek with
    | none => failure
    | some c =>
      if isPart c then
        let name ← spaced isPart
        expect '\x7d'
        match edge? (String.ofList name) with
        | some holds => pure (some holds)
        | none => failure
      else
        set before
        pure none
  else pure none

/-! ### Characters by number -/

/-- Whether a character is a hexadecimal digit. -/
def isHexDigit (c : Char) : Bool :=
  c.isDigit || ('a' ≤ c && c ≤ 'f') || ('A' ≤ c && c ≤ 'F')

/-- The character with a number in hexadecimal digits. -/
def ofHex? (digits : List Char) : Option Char :=
  let value (c : Char) : Nat :=
    if c.isDigit then c.toNat - '0'.toNat else c.toLower.toNat - 'a'.toNat + 10
  let number := digits.foldl (fun n c => n * 16 + value c) 0
  if h : number.isValidChar ∧ digits ≠ [] then some (Char.ofNatAux number h.1) else none

/-- A character by its number: so many digits, or any number of them in braces. -/
def byNumber (count : Nat) : Scanner Char := do
  skipBlanks
  let found ←
    if ← accepts "\x7b" then do
      skipBlanks
      let digits ← spaced isHexDigit
      expect '\x7d'
      skipBlanks
      pure (ofHex? digits)
    else do
      let digits ← spacedUpTo isHexDigit count
      if digits.length < count then failure
      pure (ofHex? digits)
  match found with
  | some c => pure c
  | none => failure

/-- A character by the number of an octet.  Where sets are those of ASCII, its two digits stand for an
octet, which must be a character by itself. -/
def byOctet : Scanner Char := do
  let before ← get
  skipBlanks
  let isNumber := (← peek) == some '\x7b'
  set before
  let c ← byNumber 2
  if (← options).isAscii && !isNumber && 0x80 ≤ c.toNat then failure
  pure c

/-! ### Sets -/

/-- The set or its complement, where case may not matter. -/
def chosen (o : Options) (isDenied : Bool) (s : CharacterSet) : CharacterSet :=
  (if o.ignoresCase then s.folded o.isAscii else s).complementIf isDenied

/-- The set as it is, unless it has octets that are no character by themselves. -/
def checked (o : Options) (s : CharacterSet) : Scanner CharacterSet :=
  if o.isAscii && s.hasHighOctet then failure else pure s

/-- A set by a property, after `\p` or `\P`. -/
def property (isDenied : Bool) : Scanner CharacterSet := do
  let options ← options
  if options.isAscii then failure
  skipBlanks
  let description ←
    if ← accepts "\x7b" then do
      skipBlanks
      let inner ← spaced (· != '\x7d')
      expect '\x7d'
      pure inner
    else do
      let letter ← next
      if letter == '\\' then failure
      skipBlanks
      pure [letter]
  match CharacterSet.ofDescription? description with
  | some (found, isOpposite) => pure (chosen options (isDenied != isOpposite) found)
  | none => failure

/-! ### Escapes -/

/-- What stands after a backslash. -/
def read : Scanner Escape := do
  let options ← options
  let bySides := bySides options.isAscii
  let c ← next
  match CharacterSet.ofLetter? options.isAscii c with
  | some found => pure (.among (← checked options found))
  | none =>
    match c with
    | 'p' => pure (.among (← property false))
    | 'P' => pure (.among (← property true))
    | 'x' => pure (.character (← byOctet))
    | 'u' => pure (.character (← byNumber 4))
    | 'U' => pure (.character (← byNumber 8))
    | 'a' => pure (.character '\x07')
    | 'f' => pure (.character '\x0c')
    | 't' => pure (.character '\t')
    | 'n' => pure (.character '\n')
    | 'r' => pure (.character '\r')
    | 'v' => pure (.character '\x0b')
    | 'A' => pure (.place fun before _ => before.isNone)
    | 'z' => pure (.place fun _ after => after.isNone)
    | 'b' =>
      match ← namedEdge? with
      | some holds => pure (.place (bySides holds))
      | none => pure (.place (bySides fun before after => before != after))
    | 'B' => pure (.place (bySides fun before after => before == after))
    | '<' => pure (.place (bySides fun before after => !before && after))
    | '>' => pure (.place (bySides fun before after => before && !after))
    | _ => if c.isAlphanum || 0x80 ≤ c.toNat then failure else pure (.character c)

end Escape

end GraphAnswers.Text.Pattern
