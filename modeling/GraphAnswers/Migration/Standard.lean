import GraphAnswers.Migration
/-!
# The migrations of an installation

The files that every installation comes with: the table of rows with its secondary indexes, and the
table of dumps.  An index is set up by applying both.
-/
namespace GraphAnswers.Migration

/-! ### The table of rows -/

/-- The script that creates the table of rows. -/
def rowsScript : String :=
  "-- Triple store: one row per (subject, predicate, object) read from a dump.\n" ++
  "CREATE TABLE IF NOT EXISTS triples (\n" ++
  "    subject   TEXT NOT NULL,\n" ++
  "    predicate TEXT NOT NULL,\n" ++
  "    object    TEXT NOT NULL,\n" ++
  "    dump_id   TEXT NOT NULL,\n" ++
  "    UNIQUE (subject, predicate, object, dump_id)\n" ++
  ");\n\n" ++
  "-- Subject-direction lookups: (predicate, subject) -> object\n" ++
  "CREATE INDEX IF NOT EXISTS idx_triples_predicate_subject ON triples (predicate, subject);\n\n" ++
  "-- Object-direction lookups and label/type resolution: (predicate, object) -> subject\n" ++
  "CREATE INDEX IF NOT EXISTS idx_triples_predicate_object ON triples (predicate, object);\n\n" ++
  "CREATE INDEX IF NOT EXISTS idx_triples_dump ON triples (dump_id);\n"

/-- The table of rows. -/
def rowsTable : Table := ⟨"triples", ["subject", "predicate", "object", "dump_id"]⟩

/-- The statements of its script. -/
def rowsStatements : List Statement := [
  .createTable true rowsTable,
  .createIndex true "idx_triples_predicate_subject" "triples" ["predicate", "subject"],
  .createIndex true "idx_triples_predicate_object" "triples" ["predicate", "object"],
  .createIndex true "idx_triples_dump" "triples" ["dump_id"]]

/-! ### The table of dumps -/

/-- The script that creates the table of dumps. -/
def dumpsScript : String :=
  "-- Dump files ingested into this index, used for incremental re-ingestion.\n" ++
  "CREATE TABLE IF NOT EXISTS dumps (\n" ++
  "    dump_id      TEXT PRIMARY KEY,\n" ++
  "    dump_path    TEXT NOT NULL UNIQUE,\n" ++
  "    file_hash    TEXT NOT NULL,\n" ++
  "    triple_count INTEGER NOT NULL DEFAULT 0,\n" ++
  "    ingested_at  TEXT NOT NULL\n" ++
  ");\n"

/-- The table of dumps. -/
def dumpsTable : Table :=
  ⟨"dumps", ["dump_id", "dump_path", "file_hash", "triple_count", "ingested_at"]⟩

/-- The statements of its script. -/
def dumpsStatements : List Statement := [.createTable true dumpsTable]

/-! ### Both -/

/-- The files, by name. -/
def standardFiles : List (String × String) := [
  ("001_triples.sql", rowsScript),
  ("002_dumps.sql", dumpsScript)]

/-- The migrations in the files. -/
def standard : Except Failure (List Migration) :=
  standardFiles.mapM fun f => ofFile f.1 (.file (.octets (Text.octets f.2)))

/-- Writes the files into a directory. -/
def install (files : FileTree) (directory : String) : Except Failure FileTree :=
  standardFiles.foldlM
    (fun files f => files.save (Text.joinPath directory f.1) (Text.octets f.2)) files

/-- The execution of their scripts. -/
def standardExecution : Execution :=
  .ofStatements fun text =>
    [(rowsScript, rowsStatements), (dumpsScript, dumpsStatements)].lookup text

/-- Sets an index up: makes its tables, as far as that has not been done. -/
def setUp : Database.Operation Unit := run standardExecution standard

end GraphAnswers.Migration
