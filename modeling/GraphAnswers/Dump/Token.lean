import GraphAnswers.Text.Words
/-!
# Tokens of a dump line

A line of a dump is a run of tokens: an IRI in angle brackets, a literal in double quotes with an
optional language tag or datatype, or a bare word.  A bracket or quote that is never closed opens a
bare word, and a bare word runs to the next blank.  Each token takes at least one character
(`length_first_le`), so the run ends.
-/
namespace GraphAnswers.Dump

open GraphAnswers.Text

/-- A token of a dump line. -/
inductive Token where
  /-- What stands between angle brackets. -/
  | iri (inside : List Char)
  /-- What stands between double quotes, its escapes as written, and the language tag. -/
  | literal (body : List Char) (language : Option (List Char))
  /-- Any other stretch without a blank. -/
  | bare (word : List Char)
  deriving DecidableEq, Repr

namespace Token

/-- The part before the first `a`, and the part after it. -/
def cutAt? (a : Char) : List Char → Option (List Char × List Char)
  | [] => none
  | c :: cs => if c = a then some ([], cs) else (cutAt? a cs).map fun (x, y) => (c :: x, y)

/-- The body of a literal whose opening quote has been read, and what follows the closing quote.  A
backslash takes the character after it along, unless that is the end of a line. -/
def closeQuote? : List Char → Option (List Char × List Char)
  | [] => none
  | '"' :: rest => some ([], rest)
  | '\\' :: [] => none
  | '\\' :: c :: rest =>
    if c = '\n' then none else (closeQuote? rest).map fun (x, y) => ('\\' :: c :: x, y)
  | c :: rest => (closeQuote? rest).map fun (x, y) => (c :: x, y)

/-- Whether a character may stand in a language tag. -/
def isTagChar (c : Char) : Bool := c.isAlphanum || c == '-'

/-- A language tag, and what follows it. -/
def languageTag? : List Char → Option (List Char × List Char)
  | '@' :: c :: rest =>
    if c.isAlpha then some (c :: rest.takeWhile isTagChar, rest.dropWhile isTagChar) else none
  | _ => none

/-- What follows a datatype. -/
def afterDatatype? : List Char → Option (List Char)
  | '^' :: '^' :: '<' :: rest => (cutAt? '>' rest).map Prod.snd
  | _ => none

/-- The literal with a body, given what follows the closing quote. -/
def closeLiteral (body rest : List Char) : Token × List Char :=
  match languageTag? rest with
  | some (language, rest) => (literal body (some language), rest)
  | none => (literal body none, (afterDatatype? rest).getD rest)

/-- The bare word that opens with `c`, and what follows it. -/
def openWord (c : Char) (cs : List Char) : Token × List Char :=
  (bare (c :: cs.takeWhile (!isBlank ·)), cs.dropWhile (!isBlank ·))

/-- The first token of a text that opens with the character `c`, which is not blank, and the rest. -/
def first (c : Char) (cs : List Char) : Token × List Char :=
  if c = '<' then
    match cutAt? '>' cs with
    | some (inside, rest) => (iri inside, rest)
    | none => openWord c cs
  else if c = '"' then
    match closeQuote? cs with
    | some (body, rest) => closeLiteral body rest
    | none => openWord c cs
  else openWord c cs

/-! ### Each token takes something -/

theorem length_dropWhile_le {α : Type} (p : α → Bool) (l : List α) :
    (l.dropWhile p).length ≤ l.length :=
  (List.dropWhile_sublist p).length_le

theorem length_cutAt?_le {a : Char} {cs x y : List Char} (h : cutAt? a cs = some (x, y)) :
    y.length ≤ cs.length := by
  induction cs generalizing x y with
  | nil => simp [cutAt?] at h
  | cons c cs ih =>
    simp only [cutAt?] at h
    split at h
    · cases h; simp
    · simp only [Option.map_eq_some_iff, Prod.mk.injEq, Prod.exists] at h
      obtain ⟨u, v, hv, _, rfl⟩ := h
      have := ih hv
      simp; omega

theorem length_closeQuote?_le {cs x y : List Char} (h : closeQuote? cs = some (x, y)) :
    y.length ≤ cs.length := by
  fun_induction closeQuote? cs generalizing x y with
  | case1 => simp at h
  | case2 rest => cases h; simp
  | case3 => simp at h
  | case4 => simp at h
  | case5 c rest _ ih =>
    simp only [Option.map_eq_some_iff, Prod.mk.injEq, Prod.exists] at h
    obtain ⟨u, v, hv, _, rfl⟩ := h
    have := ih hv
    simp; omega
  | case6 c rest _ _ _ ih =>
    simp only [Option.map_eq_some_iff, Prod.mk.injEq, Prod.exists] at h
    obtain ⟨u, v, hv, _, rfl⟩ := h
    have := ih hv
    simp; omega

theorem length_closeLiteral_le (body rest : List Char) :
    (closeLiteral body rest).2.length ≤ rest.length := by
  unfold closeLiteral
  split
  · rename_i language after h
    unfold languageTag? at h
    split at h
    · split at h
      · cases h
        have := length_dropWhile_le isTagChar ‹List Char›
        simp; omega
      · cases h
    · cases h
  · unfold afterDatatype?
    split
    · rename_i more _
      cases h : cutAt? '>' more with
      | none => simp
      | some p =>
        have := length_cutAt?_le (x := p.1) (y := p.2) h
        simp; omega
    · simp

/-- What is left after the first token is no longer than what followed its first character. -/
theorem length_first_le (c : Char) (cs : List Char) : (first c cs).2.length ≤ cs.length := by
  have word : (openWord c cs).2.length ≤ cs.length := length_dropWhile_le (!isBlank ·) cs
  unfold first
  split
  · split
    · exact length_cutAt?_le ‹_›
    · exact word
  · split
    · split
      · rename_i h
        exact Nat.le_trans (length_closeLiteral_le _ _) (length_closeQuote?_le h)
      · exact word
    · exact word

/-- The tokens of a text, in order. -/
def ofText : List Char → List Token
  | [] => []
  | c :: cs =>
    if isBlank c then ofText cs
    else (first c cs).1 :: ofText (first c cs).2
termination_by cs => cs.length
decreasing_by
  · simp
  · exact Nat.lt_succ_of_le (length_first_le c cs)

end Token

end GraphAnswers.Dump
