import GraphAnswers.Element
import GraphAnswers.Language
/-!
# Indexes and inquiries

An index answers two kinds of look-ups: the values related to an anchor through a field, and the
topics with a label or a type.  Either may fail.  Whatever asks an index is an `Inquiry`: a course
of look-ups, each of which may depend on the outcomes before it, that ends in a value or a failure.
An inquiry is data, so what it asks can be inspected, and it can be carried out in several ways:
against an index (`Inquiry.run`), or through a cache (`GraphAnswers.Index.Cache`).
-/
namespace GraphAnswers

/-- The place of the anchor in the triples that a look-up matches. -/
inductive Role where
  /-- The anchor is the subject; the look-up gives objects. -/
  | subject
  /-- The anchor is the object; the look-up gives subjects. -/
  | object
  deriving DecidableEq, Repr

/-- What is asked of an index: the values related to an anchor through a field. -/
structure Lookup where
  field : String
  anchor : String
  role : Role
  deriving DecidableEq, Repr

/-- An index of triples. -/
structure Index where
  /-- The values related to an anchor through a field.  Objects are given with spaces for hyphens.
  A look-up that matches nothing fails with `notFound`. -/
  property : Lookup → Except Failure (SortedSet String)
  /-- The topics with a label in a language or, if there are none, those of a type. -/
  topics : String → Language → Except Failure (SortedSet Element)

/-- A course of look-ups that ends in a value or a failure. -/
inductive Inquiry (α : Type) where
  /-- Nothing more is asked. -/
  | done (outcome : Except Failure α)
  /-- A look-up of values, and how to go on with its outcome. -/
  | property (lookup : Lookup) (next : Except Failure (SortedSet String) → Inquiry α)
  /-- A look-up of topics, and how to go on with its outcome. -/
  | topics (term : String) (language : Language)
      (next : Except Failure (SortedSet Element) → Inquiry α)

namespace Inquiry

variable {α β : Type}

/-- Goes on after the last outcome, a failure included. -/
def continueWith (x : Inquiry α) (f : Except Failure α → Inquiry β) : Inquiry β :=
  match x with
  | done outcome => f outcome
  | property lookup next => property lookup fun outcome => (next outcome).continueWith f
  | topics term language next => topics term language fun outcome => (next outcome).continueWith f

instance : Monad Inquiry where
  pure a := done (.ok a)
  bind x f := x.continueWith fun
    | .ok a => f a
    | .error e => done (.error e)

/-- An inquiry that asks nothing. -/
def ofExcept (outcome : Except Failure α) : Inquiry α := done outcome

/-- Gives up. -/
def fail (f : Failure) : Inquiry α := done (.error f)

/-- The same inquiry, with its failure as a value. -/
def attempt (x : Inquiry α) : Inquiry (Except Failure α) := x.continueWith fun outcome =>
  done (.ok outcome)

/-- The same inquiry, in which a look-up that found nothing is no failure. -/
def ifFound (x : Inquiry α) : Inquiry (Option α) := x.continueWith fun
  | .ok a => done (.ok (some a))
  | .error .notFound => done (.ok none)
  | .error e => done (.error e)

/-- Carries an inquiry out against an index. -/
def run (index : Index) : Inquiry α → Except Failure α
  | done outcome => outcome
  | property lookup next => run index (next (index.property lookup))
  | topics term language next => run index (next (index.topics term language))

/-! ### Look-ups as inquiries -/

/-- The values related to an anchor. -/
def values (lookup : Lookup) : Inquiry (SortedSet String) := property lookup done

/-- The topics with a label in a language or, if there are none, those of a type. -/
def candidates (term : String) (language : Language) : Inquiry (SortedSet Element) :=
  topics term language done

/-! ### Carrying out -/

theorem run_continueWith (index : Index) (x : Inquiry α) (f : Except Failure α → Inquiry β) :
    (x.continueWith f).run index = (f (x.run index)).run index := by
  induction x with
  | done outcome => rfl
  | property lookup next ih => exact ih _
  | topics term language next ih => exact ih _

@[simp] theorem run_pure (index : Index) (a : α) : (pure a : Inquiry α).run index = .ok a := rfl

@[simp] theorem run_done (index : Index) (outcome : Except Failure α) :
    (done outcome).run index = outcome := rfl

@[simp] theorem run_fail (index : Index) (f : Failure) :
    (fail f : Inquiry α).run index = .error f := rfl

@[simp] theorem run_values (index : Index) (lookup : Lookup) :
    (values lookup).run index = index.property lookup := rfl

@[simp] theorem run_candidates (index : Index) (term : String) (language : Language) :
    (candidates term language).run index = index.topics term language := rfl

@[simp] theorem run_attempt (index : Index) (x : Inquiry α) :
    x.attempt.run index = .ok (x.run index) := by
  simp [attempt, run_continueWith]

/-- Carrying out one inquiry after another is carrying out both in turn. -/
@[simp] theorem run_bind (index : Index) (x : Inquiry α) (f : α → Inquiry β) :
    (x >>= f).run index = (x.run index).bind fun a => (f a).run index := by
  show (x.continueWith _).run index = _
  rw [run_continueWith]
  cases x.run index <;> rfl

end Inquiry

end GraphAnswers
