import GraphAnswers.Index.Memory
import GraphAnswers.Store
/-!
# A store as an index

A store answers a look-up by selecting, without repetition, the objects or the subjects of the rows
that match.  Rows of several dumps may carry the same triple.
-/
namespace GraphAnswers.Store

/-- The objects, as stored, of the rows with a predicate and a subject. -/
def selectObjects (s : Store) (predicate subject : String) : SortedSet String :=
  .ofList ((s.rows.filter fun r => r.triple.predicate == predicate && r.triple.subject == subject).map
    fun r => r.triple.object)

/-- The subjects of the rows with a predicate and an object. -/
def selectSubjects (s : Store) (predicate object : String) : SortedSet String :=
  .ofList ((s.rows.filter fun r => r.triple.predicate == predicate && r.triple.object == object).map
    fun r => r.triple.subject)

/-- The store as an index. -/
def index (s : Store) : Index where
  property lookup :=
    match lookup.role with
    | .subject => nonEmpty ((s.selectObjects lookup.field lookup.anchor).map shownObject)
    | .object => nonEmpty (s.selectSubjects lookup.field lookup.anchor)
  topics term language := do
    let labelled := s.selectSubjects Field.label (language.mark term)
    let subjects := if labelled.isEmpty then s.selectSubjects Field.type term else labelled
    Element.ofIds .topic (← nonEmpty subjects)

end GraphAnswers.Store
