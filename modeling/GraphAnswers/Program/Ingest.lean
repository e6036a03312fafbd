import GraphAnswers.Dump.Discovery
import GraphAnswers.Migration
import GraphAnswers.Program
import GraphAnswers.Program.Arguments
/-!
# The program that takes dumps in

It brings an index up to date with the dumps of a path: it applies the migrations that are missing,
takes in the dumps that are new or have changed (or all of them, if forced), and may remove those that
are gone.  A dump that cannot be taken in is reported, and does not keep others from being taken in.
-/
namespace GraphAnswers.Program.Ingest

/-- The name of the program, and the source of its records. -/
def source : String := "ingest"

/-- The directory of the migrations. -/
def migrationsPath : String := "migrations"

/-- The switches. -/
def switches : List Switch := [
  { name := "index", letter := some 'i', takesValue := true },
  { name := "force", letter := some 'f' },
  { name := "cleanup", letter := some 'c' },
  { name := "subject", takesValue := true, isRepeatable := true },
  .help]

/-- How the program is called. -/
def usage : List String := [
  "Ingest triple dumps into a FactQA index (incremental by default)",
  "",
  "Usage: ingest [OPTIONS] <DUMP_PATH>",
  "",
  "Arguments:",
  "  <DUMP_PATH>  Dump file or directory of dumps",
  "",
  "Options:",
  "  -i, --index <INDEX>       Index to build or update (default: factqa.default_index)",
  "  -f, --force               Force re-ingestion of all dumps (ignore hashes)",
  "  -c, --cleanup             Clean up dumps that no longer exist on disk",
  "      --subject <SUBJECTS>  Keep only triples about these subjects (repeatable)",
  "  -h, --help                Print help"]

/-- What is asked of the program. -/
structure Request where
  dumpPath : String
  index : Option String := none
  isForced : Bool := false
  removesVanished : Bool := false
  /-- The subjects to keep; none keeps all. -/
  subjects : List String := []

/-- What arguments ask of the program; it may end here.  What is wrong in front of the switch that asks
for help comes first, and what is missing does not matter then. -/
def requested (call : Invocation) : Program Request := do
  match Arguments.read? switches call.arguments with
  | none => refuse
  | some given =>
    if 1 < given.others.length || given.others.contains "" then refuse
    if given.has "help" then
      usage.forM print
      throw (.exit 0)
    match given.others with
    | [] => refuse
    | dumpPath :: _ =>
      pure {
        dumpPath
        index := given.value? "index"
        isForced := given.has "force"
        removesVanished := given.has "cleanup"
        subjects := given.values "subject" }

/-- How dumps are taken in. -/
def optionsOf (settings : Settings) (subjects : List String) : IngestOptions where
  batchSize := max 1 settings.batchSize
  maxObjectLength := settings.maxObjectLength
  filter := { predicates := settings.ingestPredicates, subjects }

/-- The counts of a run. -/
structure Tally where
  triples : Nat := 0
  skipped : Nat := 0
  errors : Nat := 0

/-- Takes one dump in, and reports on it. -/
def takeIn (path : String) (options : IngestOptions) (now : Nat) (dump : DumpFile) (tally : Tally) :
    Program Tally := do
  match ← attempt path (Database.ingest options now dump) with
  | .ok stats =>
    inform ("✓ " ++ dump.path ++ " (" ++ toString stats.triples ++ " triples, " ++
      toString stats.skipped ++ " lines skipped)")
    pure { tally with
      triples := tally.triples + stats.triples, skipped := tally.skipped + stats.skipped }
  | .error failure =>
    record .error ("✗ " ++ dump.path ++ ": " ++ failure.message)
    pure { tally with errors := tally.errors + 1 }

/-- Takes dumps in one after another, each a little later than the one before; `place` is the place of
the first among all `total`. -/
def takeInAll (path : String) (options : IngestOptions) (now total : Nat) :
    Nat → List DumpFile → Tally → Program Tally
  | _, [], tally => pure tally
  | place, dump :: rest, tally => do
    inform ("[" ++ toString place ++ "/" ++ toString total ++ "] Processing: " ++ dump.path)
    let tally ← takeIn path options (now + place) dump tally
    takeInAll path options now total (place + 1) rest tally

/-- Removes the dumps that are gone, if that is asked for, and counts the rows removed.  Only the
dumps of a directory can be gone. -/
def removeVanished (request : Request) (path : String) (dumps : List DumpFile) : Program Nat := do
  if (← files).isDirectory request.dumpPath then
    let gone ← carryOut path (Database.reading fun d => d.vanished (dumps.map DumpFile.path))
    if gone.isEmpty then pure 0
    else if request.removesVanished then
      inform ("Removing " ++ toString gone.size ++ " dump(s) no longer on disk")
      carryOut path (Database.deleteDumps gone.toList)
    else
      inform ("Found " ++ toString gone.size ++
        " dump(s) in the index that no longer exist on disk (use --cleanup to remove)")
      pure 0
  else pure 0

/-- Makes the directories of an index file. -/
def makeHome (path : String) : Program Unit := do
  match (← files).makeDirectories (Text.parentPath path) with
  | .ok files => modify fun s => { s with files }
  | .error obstacle => fail obstacle.message

/-- Brings an index up to date with dumps that were found. -/
def update (call : Invocation) (settings : Settings) (request : Request) (path : String)
    (dumps : List DumpFile) : Program Unit := do
  let hashes ← carryOut path (Database.reading Database.hashes)
  let found := Dump.classify dumps hashes
  let count (l : List DumpFile) : String := toString l.length
  if request.isForced then inform "Mode: full re-ingestion (all dumps)"
  else inform ("Classification: new=" ++ count found.new ++ ", modified=" ++ count found.modified ++
    ", unchanged (skip)=" ++ count found.unchanged)
  let chosen := if request.isForced then dumps else found.new ++ found.modified
  let options := optionsOf settings request.subjects
  let tally ← takeInAll path options call.now chosen.length 1 chosen {}
  let removed ← removeVanished request path dumps
  inform "=== Ingestion Complete ==="
  inform ("Dumps discovered: " ++ count dumps)
  inform ("  New: " ++ count found.new)
  inform ("  Modified: " ++ count found.modified)
  inform ("  Unchanged (skipped): " ++ count found.unchanged)
  inform ("Dumps processed: " ++ count chosen ++ " (errors: " ++ toString tally.errors ++ ")")
  inform ("Triples inserted: " ++ toString tally.triples)
  inform ("Lines skipped: " ++ toString tally.skipped)
  if 0 < removed then inform ("Triples removed with deleted dumps: " ++ toString removed)
  if 0 < tally.errors then
    record .warn "Some dumps failed to ingest. Check logs above for details."

/-- Brings an index up to date with the dumps of a path, if there are any. -/
def refresh (call : Invocation) (settings : Settings) (request : Request) (path : String) :
    Program Unit := do
  let dumps ← expect (Dump.discover (← files) request.dumpPath)
  if dumps.isEmpty then
    record .warn ("No dump files found. Supported extensions: " ++ Text.join ", " Dump.extensions)
  else update call settings request path dumps

/-- The program. -/
def program (call : Invocation) : Program Unit := do
  let request ← requested call
  inform "Starting FactQA ingestion"
  let settings ← settings call
  let name := request.index.getD settings.defaultIndex
  let path ← indexPath settings name
  inform ("Dump path: " ++ request.dumpPath)
  inform ("Index: " ++ name ++ " (" ++ path ++ ")")
  makeHome path
  let known := Migration.load (← files) migrationsPath
  carryOut path (Migration.run call.execute known)
  inform "Index initialized"
  refresh call settings request path

/-- A call of the program. -/
def transcript (call : Invocation) (files : FileTree) : Transcript :=
  run (program call) (.ofVariables call.environment "info") source files

end GraphAnswers.Program.Ingest
