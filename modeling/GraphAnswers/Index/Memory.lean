import GraphAnswers.Index.Queries
import GraphAnswers.Triple
/-!
# A set of triples as an index

A set of triples held in memory answers look-ups by walking through its triples.
-/
namespace GraphAnswers

/-- An object as it is shown: hyphens stand for spaces. -/
def shownObject (object : String) : String := Text.replaceWhere (· == '-') ' ' object

/-- A look-up that matches nothing fails. -/
def nonEmpty {α : Type} [Ord α] (found : SortedSet α) : Except Failure (SortedSet α) :=
  if found.isEmpty then .error .notFound else .ok found

/-- A set of triples held in memory. -/
abbrev TripleSet := SortedSet Triple

namespace TripleSet

/-- The subjects that a predicate relates to an object. -/
def subjectsOf (triples : TripleSet) (predicate object : String) : SortedSet String :=
  (triples.filter fun t => t.predicate == predicate && t.object == object).map Triple.subject

/-- The objects, as they are shown, that a predicate relates to a subject. -/
def objectsOf (triples : TripleSet) (predicate subject : String) : SortedSet String :=
  (triples.filter fun t => t.subject == subject && t.predicate == predicate).map
    fun t => shownObject t.object

/-- The set as an index. -/
def index (triples : TripleSet) : Index where
  property lookup :=
    match lookup.role with
    | .subject => nonEmpty (triples.objectsOf lookup.field lookup.anchor)
    | .object => nonEmpty (triples.subjectsOf lookup.field lookup.anchor)
  topics term language := do
    let labelled := triples.subjectsOf Field.label (language.mark term)
    let subjects := if labelled.isEmpty then triples.subjectsOf Field.type term else labelled
    Element.ofIds .topic (← nonEmpty subjects)

end TripleSet

end GraphAnswers
