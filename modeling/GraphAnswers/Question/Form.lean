import GraphAnswers.Failure
import GraphAnswers.Question
import GraphAnswers.Text.Numeral
/-!
# Reading a question

A question is first cut into words (`Question.words`): question marks that stand alone or end the
question are no part of it.  `Question.classify` then tries the five forms in a fixed order, by the
words at fixed places; it looks at nothing but the words.
-/
namespace GraphAnswers.Question

open GraphAnswers.Text

/-- Whether a word consists of question marks only. -/
def isMarks (word : String) : Bool := word.toList.all (· == '?')

/-- Strips question marks off the end of the last word. -/
def stripMarks : List String → List String
  | [] => []
  | [last] => [String.ofList (dropEndWhile (· == '?') last.toList)]
  | word :: rest => word :: stripMarks rest

/-- The words of a question, without words of question marks only and without question marks at the
end. -/
def words (question : String) : List String :=
  stripMarks ((Text.words question).filter fun word => !isMarks word)

/-- Whether the word at place `i` is `keyword`, in any mixture of upper and lower case. -/
def hasWord (tokens : List String) (i : Nat) (keyword : String) : Bool :=
  (tokens[i]?).any (sameLetters · keyword)

/-- Fails when there are fewer than `minimum` words. -/
def require (tokens : List String) (minimum : Nat) : Except Failure Unit :=
  if tokens.length < minimum then .error .malformedQuestion else .ok ()

/-- Whether a word ends in a given letter. -/
def endsIn (word : String) (letter : Char) : Bool := word.toList.getLast? == some letter

/-- The number of a term has to agree with the count: no word in `y` for several, none in `s` for
one. -/
def checkNumber (term : String) (count : Nat) : Except Failure Unit :=
  if 1 < count && endsIn term 'y' then .error (.grammarMismatch "Type plural form!")
  else if count == 1 && endsIn term 's' then .error (.grammarMismatch "Type singular form!")
  else .ok ()

/-- The place of the first word `of`, provided that a word follows it. -/
def ofPlace? (tokens : List String) : Option Nat :=
  (tokens.findIdx? (· == "of")).filter (· + 1 < tokens.length)

/-- The words from place `start` up to place `stop`, joined; none if `stop` comes before `start`. -/
def between (tokens : List String) (start stop : Nat) : String :=
  unwords ((tokens.take stop).drop start)

/-- A question for a number of things: the count is the second word if that is a numeral, and the
third otherwise; the term follows it. -/
def classifyQuantity (tokens : List String) : Except Failure Template := do
  let early := ((tokens[1]?).bind (numeral? maxCount)).isSome
  let place := if early then 1 else 2
  require tokens (place + 2)
  let word := tokens.getD place ""
  let term := tokens.getD (place + 1) ""
  match (numeral? maxCount word).filter (0 < ·) with
  | none => .error (.nonNumericQuantity word)
  | some count =>
    checkNumber term count
    pure (.quantity count term)

/-- The forms that open with `tell`: `tell … the TERM of ANCHOR`, or a quantity question. -/
def classifyTell (tokens : List String) : Except Failure Template :=
  match ofPlace? tokens with
  | some place =>
    if hasWord tokens 2 "the" then do
      require tokens 6
      pure (.starring (between tokens 3 place) (unwords (tokens.drop (place + 1))))
    else classifyQuantity tokens
  | none => classifyQuantity tokens

/-- The template of a question, given by its words.  The forms are tried in order. -/
def classify (tokens : List String) : Except Failure Template :=
  if tokens.isEmpty then .error .malformedQuestion
  else if hasWord tokens 0 "what" || hasWord tokens 0 "is" || hasWord tokens 1 "is" then do
    require tokens 3
    let filter := if hasWord tokens 0 "who" then .persons else .nonPersons
    pure (.typeOf (unwords (tokens.drop 2)) filter)
  else if hasWord tokens 0 "where" then do
    require tokens 4
    pure (.birthplace (between tokens 2 (tokens.length - 1)))
  else if hasWord tokens 1 "has" then do
    require tokens 4
    pure (.property (tokens.getD 2 "") (unwords (tokens.drop 3)))
  else if hasWord tokens 0 "tell" then classifyTell tokens
  else .error .unrecognizedForm

/-- The template of a question. -/
def template (question : String) : Except Failure Template := classify (words question)

end GraphAnswers.Question
