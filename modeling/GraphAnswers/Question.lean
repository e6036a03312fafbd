import GraphAnswers.Text.Words
/-!
# Questions and their templates

A question has one of five forms; what it asks, with the form's fixed words taken away, is its
`Template`.  `Template.sentence` puts a template into words again, so that reading a question
(`GraphAnswers.Question.Form`) has something to be compared with.
-/
namespace GraphAnswers

/-- Which anchors a question is about. -/
inductive PersonFilter where
  | any
  | persons
  | nonPersons
  deriving DecidableEq, Repr

namespace PersonFilter

/-- Whether an anchor passes, given whether it is a person. -/
def accepts : PersonFilter → Bool → Bool
  | any, _ => true
  | persons, isPerson => isPerson
  | nonPersons, isPerson => !isPerson

/-- What is said when every anchor was rejected. -/
def rejection : PersonFilter → String
  | any => "no anchor accepted"
  | persons => "expected a person"
  | nonPersons => "did not expect a person"

end PersonFilter

/-- What a question asks. -/
inductive Template where
  /-- The types of a thing: "What is X", "Who is X". -/
  | typeOf (anchor : String) (filter : PersonFilter)
  /-- The birthplace of a person: "Where was X born". -/
  | birthplace (anchor : String)
  /-- What a term of the catalog gives for a thing: "Who has directed X". -/
  | property (term anchor : String)
  /-- The same, possibly through nodes in between: "Tell me the actors of X". -/
  | starring (term anchor : String)
  /-- The first topics of a type: "Tell me 3 movies". -/
  | quantity (count : Nat) (term : String)
  deriving DecidableEq, Repr

namespace Template

/-- The question in words. -/
def sentence : Template → String
  | typeOf anchor .persons => "Who is " ++ anchor
  | typeOf anchor _ => "What is " ++ anchor
  | birthplace anchor => "Where was " ++ anchor ++ " born"
  | property term anchor => "Who has " ++ term ++ " " ++ anchor
  | starring term anchor => "Tell me the " ++ term ++ " of " ++ anchor
  | quantity count term => "Tell me " ++ toString count ++ " " ++ term

end Template

end GraphAnswers
