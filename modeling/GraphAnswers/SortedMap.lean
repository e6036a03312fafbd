import GraphAnswers.SortedSet
/-!
# Maps kept in ascending order of their keys

A `SortedMap` lists its entries in strictly ascending order of the keys, so a key has one entry and
whoever walks through a map meets the keys in order.  Every change goes through `insertWith`: one
pass that combines with the entry found, or puts a new one in its place.
-/
namespace GraphAnswers

open Std

/-- A finite map, its entries listed in strictly ascending order of their keys. -/
structure SortedMap (κ β : Type) [Ord κ] where
  /-- The entries, in ascending order of the keys. -/
  toList : List (κ × β)
  ascending : (toList.map Prod.fst).Pairwise fun a b => compare a b = .lt

namespace SortedMap

variable {κ β γ : Type} [Ord κ]

/-- Puts an entry for `k` in its place; an entry found there becomes `combine` of it. -/
def place (k : κ) (b : β) (combine : β → β) : List (κ × β) → List (κ × β)
  | [] => [(k, b)]
  | (k', b') :: l =>
    match compare k k' with
    | .lt => (k, b) :: (k', b') :: l
    | .eq => (k', combine b') :: l
    | .gt => (k', b') :: place k b combine l

/-- The keys after `place` are those of a sorted set after an insertion. -/
theorem keys_place (k : κ) (b : β) (combine : β → β) (l : List (κ × β)) :
    (place k b combine l).map Prod.fst = SortedSet.place k (l.map Prod.fst) := by
  induction l with
  | nil => rfl
  | cons e l ih =>
    obtain ⟨k', b'⟩ := e
    cases h : compare k k' <;> simp [place, SortedSet.place, h, ih]

theorem ascending_nil :
    (([] : List (κ × β)).map Prod.fst).Pairwise fun a b => compare a b = .lt :=
  List.Pairwise.nil

/-- The map without entries. -/
def empty : SortedMap κ β := ⟨[], ascending_nil⟩

instance : EmptyCollection (SortedMap κ β) := ⟨empty⟩
instance : Inhabited (SortedMap κ β) := ⟨empty⟩

theorem toList_injective {s t : SortedMap κ β} (h : s.toList = t.toList) : s = t := by
  cases s; cases t; cases h; rfl

/-- The number of entries. -/
def size (m : SortedMap κ β) : Nat := m.toList.length

/-- Whether there is no entry. -/
def isEmpty (m : SortedMap κ β) : Bool := m.toList.isEmpty

/-- The keys, in ascending order. -/
def keys (m : SortedMap κ β) : List κ := m.toList.map Prod.fst

/-- The value of the entry for `k`. -/
def find? [DecidableEq κ] (m : SortedMap κ β) (k : κ) : Option β :=
  (m.toList.find? fun e => decide (e.1 = k)).map Prod.snd

/-- Whether there is an entry for `k`. -/
def contains [DecidableEq κ] (m : SortedMap κ β) (k : κ) : Bool := (m.find? k).isSome

/-- Replaces every value, leaving the keys. -/
def mapValues (f : β → γ) (m : SortedMap κ β) : SortedMap κ γ :=
  ⟨m.toList.map fun e => (e.1, f e.2), by
    have := m.ascending
    simpa [List.map_map, Function.comp_def] using this⟩

/-- Leaves the entry for `k` out. -/
def erase [DecidableEq κ] (m : SortedMap κ β) (k : κ) : SortedMap κ β :=
  ⟨m.toList.filter fun e => decide (e.1 ≠ k),
    m.ascending.sublist (List.filter_sublist.map _)⟩

section Insertion

variable [TransOrd κ] [LawfulEqOrd κ]

/-- Adds an entry for `k`, or changes the one there is by `combine`. -/
def insertWith (m : SortedMap κ β) (k : κ) (b : β) (combine : β → β) : SortedMap κ β :=
  ⟨place k b combine m.toList, by
    rw [keys_place]
    exact SortedSet.ascending_place m.ascending⟩

/-- Sets the entry for `k`. -/
def insert (m : SortedMap κ β) (k : κ) (b : β) : SortedMap κ β := m.insertWith k b fun _ => b

end Insertion

end SortedMap

end GraphAnswers
