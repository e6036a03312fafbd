import GraphAnswers.Failure
import GraphAnswers.Text.Words
/-!
# Languages and language-tagged texts

A language is named by what follows the `@` of its tag: `en` for `@en`.  A stored label ends in its
tag; `Language.display` reads it back for one language, and `Language.mark` writes one.
-/
namespace GraphAnswers

/-- A language, named by its code. -/
structure Language where
  /-- What follows the `@` of the tag. -/
  code : String
  deriving DecidableEq, Repr

namespace Language

/-- English, for which no setting is needed. -/
def english : Language := ⟨"en"⟩

/-- The tag, with its leading `@`. -/
def tag (l : Language) : String := "@" ++ l.code

/-- The language that a text names, with or without the leading `@` of the tag. -/
def ofText (s : String) : Language :=
  match Text.trimmed s.toList with
  | '@' :: code => ⟨String.ofList code⟩
  | code => ⟨String.ofList code⟩

/-- A text marked with the tag, as labels are stored. -/
def mark (l : Language) (text : String) : String := text ++ " " ++ l.tag

/-- The text of a stored label, if the label is in this language.  The tag is what follows the last
`@`; a label without one cannot be read.  In the text, hyphens stand for spaces. -/
def display (l : Language) (label : String) : Except Failure (Option String) :=
  match Text.splitLast? '@' label.toList with
  | none => .error (.untaggedLabel label)
  | some (text, code) =>
    if code = l.code.toList then
      .ok (some (Text.trim (Text.replaceWhere (· == '-') ' ' (String.ofList text))))
    else .ok none

end Language

end GraphAnswers
