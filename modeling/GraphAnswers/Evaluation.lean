import GraphAnswers.Evaluation.Cases
import GraphAnswers.Evaluation.Single
import GraphAnswers.SortedMap
/-!
# Accuracy

How many cases passed, of all and by category.  Without cases the accuracy is zero.
-/
namespace GraphAnswers.Evaluation

/-- The counts of a category. -/
structure Score where
  passed : Nat := 0
  total : Nat := 0
  deriving DecidableEq, Repr

/-- The share of the cases that passed. -/
def Score.accuracy (s : Score) : Single :=
  if s.total = 0 then Single.ofNat 0 else .quotient s.passed s.total

/-- Counts one more case. -/
def Score.add (s : Score) (passed : Bool) : Score where
  passed := s.passed + if passed then 1 else 0
  total := s.total + 1

/-- The counts of a list of outcomes. -/
def score (outcomes : List Bool) : Score := outcomes.foldl Score.add {}

/-- The counts by category, in order of the categories. -/
def byCategory (outcomes : List (String × Bool)) : SortedMap String Score :=
  outcomes.foldl
    (fun m e => m.insertWith e.1 (Score.add {} e.2) fun s => s.add e.2) SortedMap.empty

end GraphAnswers.Evaluation
