import GraphAnswers.Text.Pattern
import GraphAnswers.Text.Pattern.Brackets
/-!
# How patterns are written

A character stands for itself, except for `.`, `^` and `$`, for groups in parentheses, sets in
brackets, choices with `|`, repetitions with `?`, `*`, `+` and counts in braces, and what a backslash
opens.  Whether a repetition takes much or little does not matter for what fits.  A text that breaks a
rule, nests its parts too deep or takes too much room is no pattern.
-/
namespace GraphAnswers.Text.Pattern

open Scanner

/-! ### Single things -/

/-- A character that stands for itself. -/
def literal (o : Options) (c : Char) : Pattern := .character (Escape.chosen o false (.single c))

/-- A dot: every character but the end of a line. -/
def dot (o : Options) : Pattern :=
  let isEnd (c : Char) : Bool := c == '\n' || (o.takesReturn && c == '\r')
  .character ⟨fun c => o.dotTakesAll || !isEnd c, CharacterSet.all.room⟩

/-- The places where `^` fits. -/
def isLineStart (o : Options) (before after : Option Char) : Bool :=
  before.isNone || (o.byLine && (before == some '\n' ||
    (o.takesReturn && before == some '\r' && after != some '\n')))

/-- The places where `$` fits. -/
def isLineEnd (o : Options) (before after : Option Char) : Bool :=
  after.isNone || (o.byLine &&
    if o.takesReturn then after == some '\r' || (after == some '\n' && before != some '\r')
    else after == some '\n')

/-- A thing that is neither a group nor a set in brackets. -/
def single : Scanner Pattern := do
  let options ← options
  match ← next with
  | '.' => if options.isAscii then failure else pure (dot options)
  | '^' => pure (.between (isLineStart options))
  | '$' => pure (.between (isLineEnd options))
  | '\\' =>
    match ← Escape.read with
    | .character c => pure (literal options c)
    | .among s => pure (.character s)
    | .place holds => pure (.between holds)
  | c => pure (literal options c)

/-! ### Repetitions -/

/-- The greatest count. -/
def maxCount : Nat := 4294967295

/-- A count, which may be missing; blanks may stand around it. -/
def count? : Scanner (Option Nat) := do
  let _ ← run isBlank
  let digits ← spaced Char.isDigit
  let _ ← run isBlank
  if digits.isEmpty then pure none
  else
    let n := digits.foldl (fun n c => n * 10 + (c.toNat - '0'.toNat)) 0
    if n ≤ maxCount then pure (some n) else failure

/-- The least and the greatest number that a count in braces stands for, after the first brace. -/
def counts : Scanner (Nat × Option Nat) := do
  skipBlanks
  match ← count? with
  | none => failure
  | some least =>
    let most ←
      if ← accepts "," then do
        skipBlanks
        if (← peek) == some '\x7d' then pure none
        else
          match ← count? with
          | none => failure
          | some most => pure (some most)
      else pure (some least)
    expect '\x7d'
    if most.any (· < least) then failure
    skipBlanks
    pure (least, most)

/-- Whether a character is a sign of repetition. -/
def isRepetition (c : Char) : Bool := c == '?' || c == '*' || c == '+' || c == '\x7b'

/-- The least and the greatest number that a sign of repetition stands for, with the sign for taking
little behind it. -/
def repetition : Scanner (Nat × Option Nat) := do
  let found ← match ← next with
    | '?' => pure (0, some 1)
    | '*' => pure (0, none)
    | '+' => pure (1, none)
    | _ => counts
  let _ ← accepts "?"
  pure found

/-! ### Groups -/

/-- What a parenthesis opens. -/
inductive Opening where
  /-- A group, with the options in it. -/
  | group (inner : Options)
  /-- Nothing: it sets options for what follows. -/
  | options (following : Options)

/-- The name of a group, which no other group may have. -/
def groupName : Scanner Unit := do
  let name ← run (· != '>')
  expect '>'
  let isStart (c : Char) : Bool := c == '_' || isAlphabetic c
  let isPart (c : Char) : Bool := isAlphanumeric c || "_.[]".toList.contains c
  if !(name.head?.any isStart && name.all isPart) then failure
  let name := String.ofList name
  if (← get).names.contains name then failure
  modify fun r => { r with names := name :: r.names }

/-- What stands between a parenthesis and what its group holds.  Conditions on what surrounds a stretch
are no part of patterns. -/
def opening : Scanner Opening := do
  skipBlanks
  let options ← options
  if ← accepts "?P<" then
    groupName
    pure (.group options)
  else if ← accepts "?<" then
    groupName
    pure (.group options)
  else if ← accepts "?" then
    let letters ← run fun c => c != ':' && c != ')'
    match options.setAll? letters with
    | none => failure
    | some following =>
      if (← next) == ':' then pure (.group following)
      else if letters.isEmpty then failure
      else pure (.options following)
  else pure (.group options)

/-! ### Patterns -/

/-- Parts of a sequence, the last first; `none` stands for options, which cannot be repeated. -/
abbrev Parts := List (Option (Nested Pattern))

/-- The sequence of parts. -/
def sequenceOf (parts : Parts) : Nested Pattern :=
  ⟨ofParts ((parts.reverse.filterMap id).map (·.value)),
    depthOf (parts.map fun part => (part.map (·.depth)).getD 0)⟩

/-- The choice between sequences, the last first. -/
def choiceOf (sequences : List (Nested Pattern)) : Nested Pattern :=
  ⟨ofChoices (sequences.reverse.map (·.value)), depthOf (sequences.map (·.depth))⟩

/-- Reads up to the end of a group or of the text: `others` are the sequences before this one, of which
`parts` have been read.  The number bounds how many things are read. -/
def parts : Nat → List (Nested Pattern) → Parts → Scanner (Nested Pattern)
  | 0, _, _ => failure
  | n + 1, others, sofar => do
    skipBlanks
    let sequences := sequenceOf sofar :: others
    match ← peek with
    | none | some ')' => pure (choiceOf sequences)
    | some '|' =>
      skip 1
      parts n sequences []
    | some '(' =>
      skip 1
      let outer ← options
      match ← opening with
      | .options following =>
        modify fun r => { r with options := following }
        parts n others (none :: sofar)
      | .group inner =>
        modify fun r => { r with options := inner }
        let group ← parts n [] []
        expect ')'
        modify fun r => { r with options := outer }
        parts n others (some ⟨group.value, group.depth + 1⟩ :: sofar)
    | some '[' =>
      skip 1
      let found ← Brackets.read
      parts n others (some ⟨.character found.value, found.depth⟩ :: sofar)
    | some c =>
      if isRepetition c then
        match sofar with
        | some part :: before =>
          let (least, most) ← repetition
          parts n others (some ⟨.repeated part.value least most, part.depth + 1⟩ :: before)
        | _ => failure
      else
        let part ← single
        parts n others (some ⟨part, 0⟩ :: sofar)

/-- How deep the parts of a pattern may be nested. -/
def maxDepth : Nat := 250

/-- How much room a pattern may take. -/
def maxRoom : Nat := 10485760

/-- The pattern that a text is. -/
def ofText? (text : String) : Option Pattern := do
  let characters := text.toList
  let (found, after) ← parts (characters.length + 1) [] [] { rest := characters }
  if after.rest.isEmpty ∧ found.depth ≤ maxDepth ∧ found.value.room ≤ maxRoom then some found.value
  else none

end GraphAnswers.Text.Pattern
