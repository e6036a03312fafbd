import GraphAnswers.Text.Blank
/-!
# Words and margins of a text

Cutting a text at every place of a kind, dropping blank margins, and splitting a text into its
words: the longest stretches without a blank character.  The functions work on lists of characters;
those on `String` are read off from them.
-/
namespace GraphAnswers.Text

/-- Cuts a list at every element that satisfies `p`; the elements cut at are left out, and the
pieces between them may be empty. -/
def splitWhere {α : Type} (p : α → Bool) : List α → List (List α)
  | [] => [[]]
  | c :: cs =>
    if p c then [] :: splitWhere p cs
    else
      match splitWhere p cs with
      | [] => [[c]]
      | w :: ws => (c :: w) :: ws

/-- The words: pieces between blank characters that are not empty. -/
def wordsOf (cs : List Char) : List (List Char) := (splitWhere isBlank cs).filter (!·.isEmpty)

/-- Leaves out the blank characters in front. -/
def trimFront (cs : List Char) : List Char := cs.dropWhile isBlank

/-- Leaves out the elements at the end that satisfy `p`. -/
def dropEndWhile {α : Type} (p : α → Bool) (cs : List α) : List α := (cs.reverse.dropWhile p).reverse

/-- Leaves out the blank characters at the end. -/
def trimBack (cs : List Char) : List Char := dropEndWhile isBlank cs

/-- Leaves out the blank characters at both ends. -/
def trimmed (cs : List Char) : List Char := trimBack (trimFront cs)

/-- A text without its blank margins. -/
def trim (s : String) : String := String.ofList (trimmed s.toList)

/-- The words of a text. -/
def words (s : String) : List String := (wordsOf s.toList).map String.ofList

/-- Texts put one after another with `separator` between them. -/
def join (separator : String) (parts : List String) : String :=
  String.ofList (List.intercalate separator.toList (parts.map String.toList))

/-- Words joined by single spaces. -/
def unwords (parts : List String) : String := join " " parts

/-- Replaces the characters that satisfy `p` by `d`. -/
def replaceWhere (p : Char → Bool) (d : Char) (s : String) : String :=
  String.ofList (s.toList.map fun c => if p c then d else c)

/-- The part before the last occurrence of `a` and the part after it. -/
def splitLast? {α : Type} [DecidableEq α] (a : α) : List α → Option (List α × List α)
  | [] => none
  | c :: cs =>
    match splitLast? a cs with
    | some (before, after) => some (c :: before, after)
    | none => if c = a then some ([], cs) else none

/-- The part after the last element that satisfies `p`, or the whole list when there is none. -/
def afterLast {α : Type} (p : α → Bool) (cs : List α) : List α :=
  (splitWhere p cs).getLastD []

/-- The number of bytes that characters take in UTF-8. -/
def byteLength (cs : List Char) : Nat := cs.foldr (fun c n => c.utf8Size + n) 0

/-- Whether two words are equal when the case of ASCII letters is left out of account. -/
def sameLetters (s t : String) : Bool := s.toList.map Char.toLower == t.toList.map Char.toLower

end GraphAnswers.Text
