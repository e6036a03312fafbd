import GraphAnswers.Evaluation.Json
import GraphAnswers.FileTree
/-!
# Evaluation cases

A case is a question with the reply expected for it.  Cases are read from a list in JSON; a case is
an object with the parts by name, or a list of the parts in order.  A reply is correct if it has the
expected lines, where blank margins of the whole, and blank ends of the lines, do not count.
-/
namespace GraphAnswers

/-- A question and the reply expected for it. -/
structure EvalCase where
  question : String
  /-- The index to ask, if it is not the one that is asked by default. -/
  index : Option String := none
  expected : String
  category : Option String := none
  deriving DecidableEq, Repr

namespace EvalCase

open Evaluation (Json)

/-- The category under which a case is counted. -/
def categoryName (c : EvalCase) : String := c.category.getD "uncategorized"

/-- The lines of a text that count. -/
def significantLines (text : String) : List (List Char) :=
  match Text.trimmed text.toList with
  | [] => []
  | cs => (Text.splitWhere (· == '\n') cs).map Text.trimBack

/-- Whether a reply is the expected one. -/
def isCorrect (c : EvalCase) (reply : String) : Bool :=
  significantLines reply == significantLines c.expected

/-! ### Reading cases -/

/-- A text that must be there. -/
def text? : Option Json → Option String
  | some (.text s) => s
  | _ => none

/-- A text that may be missing or null. -/
def optionalText? : Option Json → Option (Option String)
  | none | some .null => some none
  | some (.text (some s)) => some (some s)
  | _ => none

/-- The parts of a case. -/
def partNames : List String := ["question", "index", "expected", "category"]

/-- Whether every key can be read, and no part of a case is given twice. -/
def hasSoundKeys (entries : List (Option String × Json)) : Bool :=
  entries.all (·.1.isSome) &&
  partNames.all fun name => (entries.filter (·.1 == some name)).length ≤ 1

/-- The case that a value gives. -/
def ofJson? (value : Json) : Option EvalCase :=
  let make (part : Nat → String → Option Json) : Option EvalCase := do
    pure {
      question := ← text? (part 0 "question")
      index := ← optionalText? (part 1 "index")
      expected := ← text? (part 2 "expected")
      category := ← optionalText? (part 3 "category") }
  match value with
  | .object entries =>
    if hasSoundKeys entries then make fun _ name => entries.lookup (some name) else none
  | .array items => if items.length ≤ partNames.length then make fun n _ => items[n]? else none
  | _ => none

/-- The cases of a source text. -/
def listOfSource? (source : String) : Option (List EvalCase) :=
  match Json.ofText? source with
  | some (.array items) => items.mapM ofJson?
  | _ => none

end EvalCase

end GraphAnswers
