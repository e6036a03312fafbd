import GraphAnswers.Failure
import GraphAnswers.SortedMap
/-!
# The catalog of terms

Which predicate of the graph a word of a question stands for.  An entry may name a collection: the
predicate that leads to nodes in between, each of which carries the predicate proper.
-/
namespace GraphAnswers

/-- What a term stands for. -/
structure Catalog.Entry where
  predicate : String
  /-- The predicate that leads to nodes in between, if there are such nodes. -/
  collection : Option String := none
  deriving DecidableEq, Repr

/-- Terms and what they stand for. -/
structure Catalog where
  entries : SortedMap String Catalog.Entry

namespace Catalog

/-- A catalog without entries. -/
def empty : Catalog := ⟨.empty⟩

/-- Sets the entry of a term. -/
def register (c : Catalog) (term : String) (entry : Entry) : Catalog := ⟨c.entries.insert term entry⟩

/-- Sets the entries of several terms, one after another. -/
def registerAll (c : Catalog) (entries : List (String × Entry)) : Catalog :=
  entries.foldl (fun c e => c.register e.1 e.2) c

/-- The vocabulary of films and persons that every installation starts from. -/
def standard : Catalog := empty.registerAll [
  ("description", ⟨"common.topic.description", none⟩),
  ("genre", ⟨"film.film.genre", none⟩),
  ("directed", ⟨"film.film.directed_by", none⟩),
  ("written", ⟨"film.film.written_by", none⟩),
  ("produced", ⟨"film.film.produced_by", none⟩),
  ("city", ⟨"location citytown", none⟩),
  ("cities", ⟨"location citytown", none⟩),
  ("movie", ⟨"film film", none⟩),
  ("movies", ⟨"film film", none⟩),
  ("actors", ⟨"film.performance.actor", some "film.film.starring"⟩),
  ("birth date", ⟨"date_of_birth", none⟩)]

/-- The entry of a term. -/
def lookup (c : Catalog) (term : String) : Except Failure Entry :=
  match c.entries.find? term with
  | some entry => .ok entry
  | none => .error (.unknownTerm term)

/-- The predicate of a term. -/
def predicate (c : Catalog) (term : String) : Except Failure String := do
  pure (← c.lookup term).predicate

/-- The collection of a term that has one. -/
def collection? (c : Catalog) (term : String) : Option String :=
  (c.entries.find? term).bind Entry.collection

/-- Whether a term has an entry. -/
def contains (c : Catalog) (term : String) : Bool := c.entries.contains term

/-- The number of entries. -/
def size (c : Catalog) : Nat := c.entries.size

/-- Whether there is no entry. -/
def isEmpty (c : Catalog) : Bool := c.entries.isEmpty

/-- The terms with their entries, in order of the terms. -/
def toList (c : Catalog) : List (String × Entry) := c.entries.toList

end Catalog

end GraphAnswers
