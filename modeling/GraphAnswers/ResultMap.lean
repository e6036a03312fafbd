import GraphAnswers.Element
import GraphAnswers.SortedMap
/-!
# Results

The outcome of a question before it is put into words: for each anchor the elements found for it.
Values for one anchor are united, and an insertion of no values stores nothing.
-/
namespace GraphAnswers

/-- Elements found, by anchor. -/
structure ResultMap where
  entries : SortedMap Element (SortedSet Element)

namespace ResultMap

/-- No results. -/
def empty : ResultMap := ⟨.empty⟩

/-- Adds values for an anchor, and tells whether there were any to add. -/
def insert (m : ResultMap) (anchor : Element) (values : SortedSet Element) : ResultMap × Bool :=
  if values.isEmpty then (m, false)
  else (⟨m.entries.insertWith anchor values (·.union values)⟩, true)

/-- Keeps the first `n` values of each entry. -/
def truncate (m : ResultMap) (n : Nat) : ResultMap := ⟨m.entries.mapValues (·.take n)⟩

/-- The values found for an anchor. -/
def find? (m : ResultMap) (anchor : Element) : Option (SortedSet Element) := m.entries.find? anchor

/-- The number of anchors. -/
def size (m : ResultMap) : Nat := m.entries.size

/-- Whether there is no anchor. -/
def isEmpty (m : ResultMap) : Bool := m.entries.isEmpty

/-- The anchors, in order. -/
def anchors (m : ResultMap) : List Element := m.entries.keys

/-- The entries, in order of the anchors. -/
def toList (m : ResultMap) : List (Element × SortedSet Element) := m.entries.toList

end ResultMap

end GraphAnswers
