import GraphAnswers.SortedSet
/-!
# Triples

A triple states that a subject is related to an object by a predicate.  Triples are ordered by
subject, then predicate, then object.
-/
namespace GraphAnswers

open Std

/-- A statement about a subject. -/
structure Triple where
  subject : String
  predicate : String
  object : String
  deriving DecidableEq, Repr

namespace Triple

instance : Ord Triple :=
  ⟨compareLex (compareOn subject) (compareLex (compareOn predicate) (compareOn object))⟩

instance : TransOrd Triple :=
  inferInstanceAs
    (TransCmp (compareLex (compareOn subject) (compareLex (compareOn predicate) (compareOn object))))

instance : LawfulEqOrd Triple where
  eq_of_compare {a b} h := by
    have h : (compare a.subject b.subject).then
        ((compare a.predicate b.predicate).then (compare a.object b.object)) = .eq := h
    rw [Ordering.then_eq_eq, Ordering.then_eq_eq] at h
    obtain ⟨h1, h2, h3⟩ := h
    cases a; cases b
    cases LawfulEqCmp.eq_of_compare h1
    cases LawfulEqCmp.eq_of_compare h2
    cases LawfulEqCmp.eq_of_compare h3
    rfl

end Triple

end GraphAnswers
