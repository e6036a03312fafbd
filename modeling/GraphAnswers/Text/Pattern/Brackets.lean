import GraphAnswers.Text.Pattern.Escape
/-!
# Sets in brackets

Brackets hold characters, ranges, sets with a name and further brackets; `&&`, `--` and `~~` combine
what stands before and after them.  A hyphen stands for itself at either end, and so does a closing
bracket at the beginning.
-/
namespace GraphAnswers.Text.Pattern.Brackets

open Scanner Escape

/-- What brackets hold so far. -/
structure Content where
  set : CharacterSet := .none
  /-- The depths of what stands side by side. -/
  depths : List Nat := []

/-- Adds a thing. -/
def Content.push (c : Content) (s : CharacterSet) (depth : Nat) : Content :=
  ⟨c.set.union s, c.depths ++ [depth]⟩

/-- The content as one thing. -/
def Content.whole (c : Content) : Nested CharacterSet := ⟨c.set, depthOf c.depths⟩

/-- How two sets are combined. -/
abbrev Combination := CharacterSet → CharacterSet → CharacterSet

/-- The combination that a sign stands for. -/
def combination : Scanner (Option Combination) := do
  if ← accepts "&&" then pure (some .common)
  else if ← accepts "--" then pure (some .difference)
  else if ← accepts "~~" then pure (some .oneOnly)
  else pure none

/-- A single thing. -/
def thing : Scanner Escape := do
  let c ← next
  if c == '\\' then Escape.read else pure (.character c)

/-- The character that a thing is.  Where sets are those of ASCII, it has to be one of ASCII. -/
def characterOf (o : Options) : Escape → Scanner Char
  | .character c => if o.isAscii && 0x80 ≤ c.toNat then failure else pure c
  | _ => failure

/-- A thing or a range of characters. -/
def range : Scanner CharacterSet := do
  let options ← options
  let first ← thing
  skipBlanks
  let beyond ← peekBeyond
  if (← peek) == some '-' && beyond != some ']' && beyond != some '-' then
    skip 1
    skipBlanks
    let last ← characterOf options (← thing)
    let first ← characterOf options first
    if last < first then failure
    pure (.range first last)
  else
    match first with
    | .among s => pure s
    | other => do pure (.single (← characterOf options other))

/-- A set with a name between colons, after its bracket; `none` if something else stands there, which
is not read then. -/
def named? : Scanner (Option CharacterSet) := do
  let before ← get
  if ← accepts ":" then
    let isDenied ← accepts "^"
    let name ← run (· != ':')
    if ← accepts ":]" then
      match CharacterSet.ofName? (String.ofList name) with
      | some found =>
        return some (← checked before.options (chosen before.options isDenied found))
      | none => pure ()
  set before
  pure none

/-- What opens the content, after the bracket: whether the complement is meant, and the hyphens or the
closing bracket that stand for themselves. -/
def opening : Scanner (Bool × Content) := do
  skipBlanks
  let isDenied ← accepts "^"
  skipBlanks
  let hyphens ← spaced (· == '-')
  let content : Content := hyphens.foldl (fun content c => content.push (.single c) 0) {}
  if !hyphens.isEmpty then pure (isDenied, content)
  else if ← accepts "]" then pure (isDenied, content.push (.single ']') 0)
  else pure (isDenied, content)

/-- The content up to the closing bracket: `left` is what it is combined with, if anything, and
`content` what has been read of it.  The number bounds how many things are read. -/
def content : Nat → Option (Nested CharacterSet × Combination) → Content →
    Scanner (Nested CharacterSet)
  | 0, _, _ => failure
  | n + 1, left, sofar => do
    let options ← options
    let combined : Nested CharacterSet := match left with
      | none => sofar.whole
      | some (left, combine) =>
        let right := sofar.whole
        ⟨combine (chosen options false left.value) (chosen options false right.value),
          max left.depth right.depth + 1⟩
    skipBlanks
    if ← accepts "]" then pure combined
    else
      match ← combination with
      | some combine => content n (some (combined, combine)) {}
      | none =>
        if ← accepts "[" then
          match ← named? with
          | some found => content n left (sofar.push found 0)
          | none =>
            let (isDenied, opened) ← opening
            let inner ← content n none opened
            let found ← checked options (chosen options isDenied inner.value)
            content n left (sofar.push found (inner.depth + 1))
        else
          let found ← range
          content n left (sofar.push found 0)

/-- A set in brackets, after the first. -/
def read : Scanner (Nested CharacterSet) := do
  let options ← options
  let (isDenied, opened) ← opening
  let inner ← content ((← get).rest.length + 1) none opened
  let found ← checked options (chosen options isDenied inner.value)
  pure ⟨found, inner.depth + 1⟩

end GraphAnswers.Text.Pattern.Brackets
