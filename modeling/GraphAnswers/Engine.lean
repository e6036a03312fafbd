import GraphAnswers.Catalog
import GraphAnswers.Index.Queries
import GraphAnswers.Question.Form
import GraphAnswers.ResultMap
/-!
# Answering a question

An engine is a catalog and a language.  `Engine.query` reads a question and finds its results, each
form in its own way; `Engine.answer` puts the results into words.  Both are inquiries, so the engine
knows nothing of the index that it will be carried out against.
-/
namespace GraphAnswers

/-- What is needed to answer questions: the vocabulary, and the language of the labels. -/
structure Engine where
  catalog : Catalog := .standard
  language : Language := .english

namespace Engine

/-! ### One predicate of each candidate -/

/-- What was found so far, and whether the filter rejected a candidate. -/
structure Collected where
  results : ResultMap := .empty
  rejected : Bool := false

/-- Whether the filter accepts an element; it is asked about persons only if that matters. -/
def accepts (filter : PersonFilter) (e : Element) : Inquiry Bool :=
  match filter with
  | .any => pure true
  | _ => do pure (filter.accepts (← Inquiry.isPerson e))

/-- Adds what one candidate has in a field. -/
def collectOne (kind : ElementKind) (field : String) (filter : PersonFilter) (c : Collected)
    (e : Element) : Inquiry Collected := do
  if ← accepts filter e then
    match ← (Inquiry.related kind field e).ifFound with
    | some values => pure { c with results := (c.results.insert e values).1 }
    | none => pure c
  else pure { c with rejected := true }

/-- The outcome of a walk over all candidates: without any result, it says whether a candidate was
rejected. -/
def Collected.outcome (c : Collected) (filter : PersonFilter) : Except Failure ResultMap :=
  if !c.results.isEmpty then .ok c.results
  else if c.rejected then .error (.wrongInputType filter.rejection)
  else .error .notFound

/-- What the accepted candidates have in a field, by candidate. -/
def collect (candidates : SortedSet Element) (kind : ElementKind) (field : String)
    (filter : PersonFilter) : Inquiry ResultMap := do
  let collected ← candidates.toList.foldlM (collectOne kind field filter) {}
  .ofExcept (collected.outcome filter)

/-! ### Through nodes in between -/

/-- What became of a number of look-ups: the elements found, by the element asked about, and the
first failure other than finding nothing. -/
structure Expanded where
  found : List (Element × SortedSet Element) := []
  firstFailure : Option Failure := none

/-- Adds the outcome of asking about one element. -/
def Expanded.add (x : Expanded) (e : Element) : Except Failure (SortedSet Element) → Expanded
  | .ok values => { x with found := x.found ++ [(e, values)] }
  | .error .notFound => x
  | .error failure => { x with firstFailure := x.firstFailure.or (some failure) }

/-- Asks for a field of each element; failures do not end the walk. -/
def expand (field : String) (elements : SortedSet Element) (start : Expanded) : Inquiry Expanded :=
  elements.toList.foldlM
    (fun x e => do pure (x.add e (← (Inquiry.related .topic field e).attempt))) start

/-- What a predicate gives for the nodes of a collection, by node.  Failures of single look-ups
matter only when nothing at all is found. -/
def throughNodes (candidates : SortedSet Element) (collection predicate : String) :
    Inquiry ResultMap := do
  let reached ← expand collection candidates {}
  let nodes := reached.found.foldl (fun s e => s.union e.2) .empty
  let valued ← expand predicate nodes { firstFailure := reached.firstFailure }
  let results := valued.found.foldl (fun m e => (m.insert e.1 e.2).1) ResultMap.empty
  if results.isEmpty then .fail (valued.firstFailure.getD .notFound) else pure results

/-! ### The forms of questions -/

/-- What a starring question finds: directly at the candidates or, failing that, at the nodes of the
term's collection. -/
def starring (engine : Engine) (term anchor : String) (language : Language) :
    Inquiry ResultMap := do
  let entry ← .ofExcept (engine.catalog.lookup term)
  let candidates ← Inquiry.candidates anchor language
  match ← (collect candidates .topic entry.predicate .any).ifFound with
  | some results => pure results
  | none =>
    match entry.collection with
    | none => .fail .notFound
    | some collection => throughNodes candidates collection entry.predicate

/-- The type that the term of a quantity question stands for.  A term that is known only in the
other number is a mistake of grammar. -/
def quantityType (catalog : Catalog) (term : String) (count : Nat) : Except Failure String :=
  if catalog.contains term then catalog.predicate term
  else if 1 < count then
    if catalog.contains (term ++ "s") then .error (.grammarMismatch "Type plural form!")
    else .error (.unknownTerm term)
  else if Question.endsIn term 's' && catalog.contains (String.ofList term.toList.dropLast) then
    .error (.grammarMismatch "Type singular form!")
  else .error (.unknownTerm term)

/-- What a quantity question finds: the first topics of a type. -/
def quantity (engine : Engine) (count : Nat) (term : String) : Inquiry ResultMap := do
  let type ← .ofExcept (quantityType engine.catalog term count)
  let key ← .ofExcept (Element.ofId .type type)
  let topics ← Inquiry.elements .topic ⟨Field.type, key.id, .object⟩
  pure ((ResultMap.empty.insert key topics).1.truncate count)

/-- What a template finds. -/
def resolve (engine : Engine) (language : Language) : Template → Inquiry ResultMap
  | .typeOf anchor filter => do
    collect (← .candidates anchor language) .type Field.type filter
  | .birthplace anchor => do
    collect (← .candidates anchor language) .topic Field.birthplace .persons
  | .property term anchor => do
    let predicate ← .ofExcept (engine.catalog.predicate term)
    collect (← .candidates anchor language) .topic predicate .nonPersons
  | .starring term anchor => engine.starring term anchor language
  | .quantity count term => engine.quantity count term

/-- The results of a question, its anchor taken as a label in a language. -/
def queryIn (engine : Engine) (language : Language) (question : String) : Inquiry ResultMap := do
  engine.resolve language (← .ofExcept (Question.template question))

/-- The results of a question. -/
def query (engine : Engine) (question : String) : Inquiry ResultMap :=
  engine.queryIn engine.language question

/-! ### Answers in words -/

/-- The line for one anchor: its identifier and the labels of its values, in order. -/
def line (language : Language) (anchor : Element) (values : SortedSet Element) : Inquiry String := do
  let labels ← values.toList.mapM fun value => Inquiry.labels value language
  pure (anchor.id ++ ": " ++ Text.join ", " (labels.flatMap SortedSet.toList))

/-- The results in words: one line for each anchor. -/
def wording (language : Language) (results : ResultMap) : Inquiry String := do
  let lines ← results.toList.mapM fun entry => line language entry.1 entry.2
  pure (Text.join "\n" lines)

/-- The answer to a question, in a language. -/
def answerIn (engine : Engine) (language : Language) (question : String) : Inquiry String := do
  wording language (← engine.queryIn language question)

/-- The answer to a question. -/
def answer (engine : Engine) (question : String) : Inquiry String :=
  engine.answerIn engine.language question

end Engine

end GraphAnswers
