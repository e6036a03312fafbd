import GraphAnswers.Index
/-!
# Looking up through a cache

A `LookupCache` remembers the outcomes of recent successful look-ups, the most recent first, up to
its capacity; capacity zero remembers nothing.  A look-up that is remembered is answered from the
cache and becomes the most recent one; any other is passed on to the index.  Failures are not
remembered, and look-ups of topics are always passed on.
-/
namespace GraphAnswers

/-- Recent look-ups and what they gave. -/
structure LookupCache where
  /-- How many look-ups are remembered at most. -/
  capacity : Nat
  /-- The remembered look-ups, the most recent first. -/
  recent : List (Lookup × SortedSet String) := []
  /-- How many look-ups of values had to be passed on to the index. -/
  passedOn : Nat := 0

namespace LookupCache

/-- The greatest capacity that a cache can have: seven eighths of 2 ^ 58 places. -/
def maxCapacity : Nat := 252201579132747776

/-- A cache that remembers nothing yet. -/
def ofCapacity (capacity : Nat) : LookupCache := { capacity }

/-- The cache that is made for a capacity; there is room for none beyond the greatest. -/
def ofCapacity? (capacity : Nat) : Option LookupCache :=
  if capacity ≤ maxCapacity then some (ofCapacity capacity) else none

theorem ofCapacity?_of_le {capacity : Nat} (h : capacity ≤ maxCapacity) :
    ofCapacity? capacity = some (ofCapacity capacity) := if_pos h

theorem ofCapacity?_of_lt {capacity : Nat} (h : maxCapacity < capacity) :
    ofCapacity? capacity = none := if_neg (Nat.not_le.mpr h)

/-- The number of look-ups remembered. -/
def size (c : LookupCache) : Nat := c.recent.length

/-- Forgets everything. -/
def clear (c : LookupCache) : LookupCache := { c with recent := [] }

/-- What is remembered for a look-up. -/
def find? (c : LookupCache) (lookup : Lookup) : Option (SortedSet String) :=
  (c.recent.find? fun e => decide (e.1 = lookup)).map Prod.snd

/-- Makes a look-up the most recent one, and forgets what exceeds the capacity. -/
def remember (c : LookupCache) (lookup : Lookup) (found : SortedSet String) : LookupCache :=
  let others := c.recent.filter fun e => decide (e.1 ≠ lookup)
  { c with recent := ((lookup, found) :: others).take c.capacity }

/-- Answers a look-up, from memory if it is remembered and from the index otherwise. -/
def serve (c : LookupCache) (index : Index) (lookup : Lookup) :
    Except Failure (SortedSet String) × LookupCache :=
  match c.find? lookup with
  | some found => (.ok found, c.remember lookup found)
  | none =>
    let passed := { c with passedOn := c.passedOn + 1 }
    match index.property lookup with
    | .ok found => (.ok found, passed.remember lookup found)
    | .error failure => (.error failure, passed)

end LookupCache

/-- Carries an inquiry out against an index, through a cache. -/
def Inquiry.runCached {α : Type} (index : Index) :
    Inquiry α → LookupCache → Except Failure α × LookupCache
  | done outcome, cache => (outcome, cache)
  | property lookup next, cache =>
    let (outcome, cache) := cache.serve index lookup
    runCached index (next outcome) cache
  | topics term language next, cache =>
    runCached index (next (index.topics term language)) cache

end GraphAnswers
