import GraphAnswers.Failure
import GraphAnswers.SortedSet
/-!
# Elements of the graph

An element is a topic (a film, a person, a place) or a type (a class of topics).  Its identifier
obeys the rule of its kind: a topic's carries a digit, a type's has a second character and that is
no dot.  Elements are ordered by their identifiers; of two with one identifier the topic comes
first.
-/
namespace GraphAnswers

open Std

/-- The two kinds of elements. -/
inductive ElementKind where
  /-- A thing with an identifier of its own. -/
  | topic
  /-- A class of things, such as `film film`. -/
  | type
  deriving DecidableEq, Repr

namespace ElementKind

/-- The rank of a kind: topics before types. -/
def rank : ElementKind → Nat
  | topic => 0
  | type => 1

theorem rank_injective {a b : ElementKind} (h : a.rank = b.rank) : a = b := by
  cases a <;> cases b <;> first | rfl | cases h

/-- Whether an identifier obeys the rule of the kind. -/
def admits : ElementKind → String → Bool
  | topic, id => id.toList.any Char.isDigit
  | type, id =>
    match id.toList with
    | _ :: second :: _ => second != '.'
    | _ => false

/-- The name of the kind in a sentence. -/
def noun : ElementKind → String
  | topic => "topic"
  | type => "type"

end ElementKind

/-- An element: an identifier that its kind admits. -/
structure Element where
  kind : ElementKind
  id : String
  admitted : kind.admits id = true

namespace Element

theorem eq_of {a b : Element} (hk : a.kind = b.kind) (hi : a.id = b.id) : a = b := by
  cases a; cases b; cases hk; cases hi; rfl

instance : DecidableEq Element := fun a b =>
  if h : a.kind = b.kind ∧ a.id = b.id then .isTrue (eq_of h.1 h.2)
  else .isFalse fun e => h (by cases e; exact ⟨rfl, rfl⟩)

instance : Ord Element := ⟨compareLex (compareOn Element.id) (compareOn fun e => e.kind.rank)⟩

instance : TransOrd Element :=
  inferInstanceAs
    (TransCmp (compareLex (compareOn Element.id) (compareOn fun e : Element => e.kind.rank)))

instance : LawfulEqOrd Element where
  eq_of_compare {a b} h := by
    have h : (compare a.id b.id).then (compare a.kind.rank b.kind.rank) = .eq := h
    rw [Ordering.then_eq_eq] at h
    exact eq_of (ElementKind.rank_injective (LawfulEqCmp.eq_of_compare h.2))
      (LawfulEqCmp.eq_of_compare h.1)

/-- The element of a kind with an identifier, if the kind admits it. -/
def ofId (kind : ElementKind) (id : String) : Except Failure Element :=
  if h : kind.admits id = true then .ok ⟨kind, id, h⟩
  else .error (.invalidIdentifier ("'" ++ id ++ "' is not a " ++ kind.noun))

/-- Whether the element is a topic. -/
def isTopic (e : Element) : Bool := decide (e.kind = .topic)

/-- The elements of a kind with the given identifiers; the first identifier that the kind does not
admit fails all of them. -/
def ofIds (kind : ElementKind) (ids : SortedSet String) : Except Failure (SortedSet Element) := do
  let elements ← ids.toList.mapM (ofId kind)
  pure (SortedSet.ofList elements)

end Element

end GraphAnswers
