import GraphAnswers.Triple
/-!
# Which triples are kept

A filter names the predicates and the subjects to keep.  Naming none keeps all.
-/
namespace GraphAnswers.Dump

/-- The predicates and subjects to keep; an empty list keeps all of them. -/
structure Filter where
  predicates : List String := []
  subjects : List String := []
  deriving DecidableEq, Repr

/-- Whether a triple is kept. -/
def Filter.accepts (f : Filter) (t : Triple) : Bool :=
  (f.predicates.isEmpty || f.predicates.contains t.predicate) &&
  (f.subjects.isEmpty || f.subjects.contains t.subject)

end GraphAnswers.Dump
