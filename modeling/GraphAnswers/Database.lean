import GraphAnswers.Index.Stored
import GraphAnswers.Schema
import GraphAnswers.Store.Ingest
/-!
# An index file

An index file has a schema, a record of the migrations applied to it, and a store.  The store can be
used as far as the schema has the tables for it: one for the rows and one for the records of dumps.
What else a file may hold is for the scripts of migrations alone, and left open.
An operation that needs a table which is not there fails.  Every operation tells its outcome and the
file after it; after a failure the store is as it was.
-/
namespace GraphAnswers

/-- What an index file holds. -/
structure Database where
  schema : Schema := {}
  /-- The migrations applied, by version and name, in the order in which they were applied. -/
  applied : List (Nat × String) := []
  store : Store := {}
  /-- What else there is, such as the rows of other tables. -/
  others : String := ""
  deriving DecidableEq, Repr

/-- An operation on an index file: its outcome, and the file after it. -/
abbrev Database.Operation (α : Type) := Database → Except Failure α × Database

namespace Database

/-- A file without tables. -/
def empty : Database := {}

/-- Fails unless there is the table of rows. -/
def needRows (d : Database) : Except Failure Unit :=
  if d.schema.hasColumns "triples" ["subject", "predicate", "object", "dump_id"] then .ok ()
  else .error .database

/-- Fails unless there is the table of dumps. -/
def needDumps (d : Database) : Except Failure Unit :=
  if d.schema.hasColumns "dumps" ["dump_id", "dump_path", "file_hash", "triple_count", "ingested_at"]
  then .ok () else .error .database

/-- Reads from the file, and leaves it as it is. -/
def reading {α : Type} (read : Database → Except Failure α) : Operation α := fun d => (read d, d)

/-- Changes the store, unless that fails or the file has no room for the rows. -/
def changing {α : Type} (change : Database → Except Failure (Store × α)) : Operation α := fun d =>
  match change d with
  | .ok (store, a) =>
    if store.rows.length ≤ Store.maxRows then (.ok a, { d with store }) else (.error .database, d)
  | .error failure => (.error failure, d)

/-! ### Reading -/

/-- The rows. -/
def rows (d : Database) : Except Failure (List Row) := do
  d.needRows
  pure d.store.rows

/-- The records of dumps. -/
def dumps (d : Database) : Except Failure (List DumpRecord) := do
  d.needDumps
  pure d.store.dumps

/-- The recorded paths with the digests of their contents. -/
def hashes (d : Database) : Except Failure (List (String × String)) := do
  d.needDumps
  pure d.store.hashes

/-- The recorded paths that are not among the existing ones, in order. -/
def vanished (d : Database) (existing : List String) : Except Failure (SortedSet String) := do
  d.needDumps
  pure (d.store.vanished existing)

/-- The state of the store. -/
def state (d : Database) : Except Failure IndexState := do
  d.needDumps
  d.store.state

/-- The file as an index. -/
def index (d : Database) : Index where
  property lookup := do
    d.needRows
    d.store.index.property lookup
  topics term language := do
    d.needRows
    d.store.index.topics term language

/-! ### Changing -/

/-- Adds the triples of a dump, and tells how many rows are new.  To add nothing needs no table. -/
def insert (dump : String) (batch : List Triple) : Operation Nat := changing fun d => do
  if batch.isEmpty then pure (d.store, 0)
  else
    d.needRows
    pure (d.store.insert dump batch)

/-- Adds the triples of a dump within the transaction of a caller, which undoes all of it where it
fails.  The table has to be there even if nothing is to be added. -/
def insertTriples (dump : String) (batch : List Triple) : Operation Nat := changing fun d => do
  d.needRows
  pure (d.store.insert dump batch)

/-- Removes the rows of a dump, and tells how many there were. -/
def deleteTriples (dump : String) : Operation Nat := changing fun d => do
  d.needRows
  pure (d.store.deleteTriples dump)

/-- Records a dump. -/
def record (r : DumpRecord) : Operation Unit := changing fun d => do
  d.needDumps
  pure (← d.store.record r, ())

/-- Removes dumps with their rows, and counts the rows. -/
def deleteDumps (paths : List String) : Operation Nat := changing fun d => do
  d.needRows
  d.needDumps
  pure (d.store.deleteDumps paths)

/-- Takes a dump in at a time. -/
def ingest (options : IngestOptions) (now : Nat) (dump : DumpFile) : Operation IngestStats :=
  changing fun d => do
    d.needRows
    let (store, stats) ← d.store.takeIn options dump
    d.needDumps
    pure (← store.record (dump.recordAt now stats), stats)

end Database

end GraphAnswers
