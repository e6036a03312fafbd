import GraphAnswers.Failure
import GraphAnswers.Triple
/-!
# The store of an index

What an index file keeps: the rows, each a triple and the dump that contributed it, and a record of
every dump taken in.  No row is kept twice, and neither two records with one identifier nor two with
one path.  Every operation gives the store after it, or fails and leaves the store as it was.
-/
namespace GraphAnswers

/-- A triple and the identifier of the dump that contributed it. -/
structure Row where
  triple : Triple
  dump : String
  deriving DecidableEq, Repr

/-- What is recorded about a dump. -/
structure DumpRecord where
  id : String
  path : String
  /-- The digest of the dump's content. -/
  hash : String
  /-- The number of rows it contributed, as a signed 64-bit word. -/
  tripleCount : Int
  /-- When it was taken in. -/
  ingestedAt : Nat
  deriving DecidableEq, Repr

/-- The rows and the records of dumps, each in the order in which they came. -/
structure Store where
  rows : List Row := []
  dumps : List DumpRecord := []
  deriving DecidableEq, Repr

/-- What a store says about the dumps taken in: how many, how many rows, and when the last one. -/
structure IndexState where
  dumps : Nat
  triples : Int
  lastIngested : Option Nat
  deriving DecidableEq, Repr

namespace Store

/-- The store of a new index. -/
def empty : Store := {}

/-! ### Rows -/

/-- The greatest number of rows: a row is numbered by a positive signed 64-bit word. -/
def maxRows : Nat := 9223372036854775807

/-- Adds a row, unless it is there. -/
def insertRow (s : Store) (row : Row) : Store :=
  if row ∈ s.rows then s else { s with rows := s.rows ++ [row] }

/-- Adds the triples of a dump, and tells how many rows are new. -/
def insert (s : Store) (dump : String) (batch : List Triple) : Store × Nat :=
  let after := batch.foldl (fun s t => s.insertRow ⟨t, dump⟩) s
  (after, after.rows.length - s.rows.length)

/-- Removes the rows of a dump, and tells how many there were. -/
def deleteTriples (s : Store) (dump : String) : Store × Nat :=
  let after := { s with rows := s.rows.filter fun row => decide (row.dump ≠ dump) }
  (after, s.rows.length - after.rows.length)

/-! ### Records of dumps -/

/-- The greatest count: counts are signed 64-bit words. -/
def maxCount : Int := 9223372036854775807

/-- A count as a signed 64-bit word. -/
def signedCount (n : Nat) : Int := Int.bmod n 18446744073709551616

/-- Records a dump.  A record with the same identifier is replaced; another record with the same
path stands in the way. -/
def record (s : Store) (d : DumpRecord) : Except Failure Store :=
  if s.dumps.any fun e => e.path == d.path && e.id != d.id then .error .database
  else if s.dumps.any (·.id == d.id) then
    .ok { s with dumps := s.dumps.map fun e => if e.id = d.id then d else e }
  else .ok { s with dumps := s.dumps ++ [d] }

/-- Removes the record of a dump. -/
def forget (s : Store) (dump : String) : Store :=
  { s with dumps := s.dumps.filter fun e => decide (e.id ≠ dump) }

/-- The recorded paths with the digests of their contents. -/
def hashes (s : Store) : List (String × String) := s.dumps.map fun d => (d.path, d.hash)

/-- The digest recorded for a path. -/
def hash? (s : Store) (path : String) : Option String :=
  (s.dumps.find? (·.path == path)).map DumpRecord.hash

/-- The recorded paths that are not among the existing ones, in order. -/
def vanished (s : Store) (existing : List String) : SortedSet String :=
  SortedSet.ofList ((s.dumps.map DumpRecord.path).filter fun path => !existing.contains path)

/-! ### The state -/

/-- The sum of counts, if no sum on the way leaves the range of a signed 64-bit word. -/
def sumWithin (total : Int) : List Int → Option Int
  | [] => some total
  | count :: rest =>
    let next := total + count
    if -maxCount - 1 ≤ next ∧ next ≤ maxCount then sumWithin next rest else none

/-- The state of a store. -/
def state (s : Store) : Except Failure IndexState :=
  match sumWithin 0 (s.dumps.map DumpRecord.tripleCount) with
  | none => .error .database
  | some triples => .ok {
      dumps := s.dumps.length
      triples
      lastIngested := (s.dumps.map DumpRecord.ingestedAt).max? }

end Store

end GraphAnswers
