import GraphAnswers.Digest.Sha256
import GraphAnswers.Dump.Filter
import GraphAnswers.Dump.Lines
import GraphAnswers.Dump.Scan
import GraphAnswers.Store
/-!
# Taking a dump in

Taking a dump in replaces whatever rows it contributed before by the triples of its lines that the
filter accepts, and records the digest of its content.  Triples are inserted batch by batch.  A line
that cannot be read fails the whole, and then nothing has changed.
-/
namespace GraphAnswers

/-- The identifier of a dump: the digest of its path. -/
def dumpId (path : String) : String := Digest.Sha256.hex (Text.octets path)

/-- The digest of the content of a file. -/
def contentHash (octets : List UInt8) : String := Digest.Sha256.hex octets

/-- How dumps are taken in. -/
structure IngestOptions where
  /-- How many triples are inserted at once. -/
  batchSize : Nat := 1000
  /-- The length in bytes at which an object is cut off. -/
  maxObjectLength : Nat := 512
  filter : Dump.Filter := {}

/-- What taking a dump in came to. -/
structure IngestStats where
  lines : Nat := 0
  /-- New rows. -/
  triples : Nat := 0
  /-- Lines that gave no triple, or one that the filter rejected. -/
  skipped : Nat := 0
  deriving DecidableEq, Repr

/-- The largest number of triples that may be inserted at once: a batch takes 72 octets for each of
them, and has to fit the address space. -/
def maxBatch : Nat := 9223372036854775807 / 72

/-- What is recorded about a dump that was taken in at a time. -/
def DumpFile.recordAt (d : DumpFile) (now : Nat) (stats : IngestStats) : DumpRecord where
  id := dumpId d.path
  path := d.path
  hash := contentHash d.octets
  tripleCount := Store.signedCount stats.triples
  ingestedAt := now

namespace Store

/-- A dump that is being taken in: the store so far, the triples not yet inserted, and the counts. -/
structure Intake where
  store : Store
  batch : List Triple := []
  stats : IngestStats := {}

namespace Intake

/-- Inserts the triples that wait. -/
def flush (x : Intake) (dump : String) : Intake :=
  let (store, inserted) := x.store.insert dump x.batch
  { store, batch := [], stats := { x.stats with triples := x.stats.triples + inserted } }

/-- The triple that a line contributes. -/
def accepted? (options : IngestOptions) (line : String) : Option Triple :=
  (Dump.scan options.maxObjectLength line).filter options.filter.accepts

/-- Takes in one line. -/
def takeLine (options : IngestOptions) (dump : String) (x : Intake) (line : String) : Intake :=
  let x := { x with stats := { x.stats with lines := x.stats.lines + 1 } }
  match accepted? options line with
  | some triple =>
    let x := { x with batch := x.batch ++ [triple] }
    if options.batchSize ≤ x.batch.length then x.flush dump else x
  | none => { x with stats := { x.stats with skipped := x.stats.skipped + 1 } }

end Intake

/-- Puts the triples of a dump in place of those that it contributed before. -/
def takeIn (s : Store) (options : IngestOptions) (dump : DumpFile) :
    Except Failure (Store × IngestStats) := do
  let id := dumpId dump.path
  if maxBatch < options.batchSize then throw .io
  let start : Intake := { store := (s.deleteTriples id).1 }
  let read ← dump.lines.foldlM (fun x line => do pure (x.takeLine options id (← line))) start
  let done := read.flush id
  pure (done.store, done.stats)

/-- Takes a dump in at a time, and records it. -/
def ingest (s : Store) (options : IngestOptions) (now : Nat) (dump : DumpFile) :
    Except Failure (Store × IngestStats) := do
  let (store, stats) ← s.takeIn options dump
  pure (← store.record (dump.recordAt now stats), stats)

/-- Removes one dump with its rows, and counts the rows. -/
def deleteDump (s : Store) (path : String) : Store × Nat :=
  let (after, removed) := s.deleteTriples (dumpId path)
  (after.forget (dumpId path), removed)

/-- Removes dumps with their rows, and counts the rows. -/
def deleteDumps (s : Store) : List String → Store × Nat
  | [] => (s, 0)
  | path :: rest =>
    let (after, removed) := s.deleteDump path
    let (last, more) := deleteDumps after rest
    (last, removed + more)

end Store

end GraphAnswers
