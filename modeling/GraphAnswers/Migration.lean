import GraphAnswers.FileTree
import GraphAnswers.Migration.Execution
import GraphAnswers.Text.Numeral
/-!
# Migrations

A migration is a script in a file `<version>_<title>.sql`.  Those of a directory are applied to an
index file in the order of their versions.  Each is applied in a transaction of its own, in which it
is also recorded, by version and name; one whose name is on record is not applied again.  The first
migration that fails ends the run: its transaction is given up, and those before it stay.
-/
namespace GraphAnswers

/-- A migration read from its file. -/
structure Migration where
  version : Nat
  /-- The name of the file without its extension. -/
  name : String
  /-- The text of the script. -/
  text : String
  deriving DecidableEq, Repr

/-- How an index file stands against the migrations of a directory. -/
structure SchemaReport where
  /-- The tables that every index needs and this one lacks. -/
  missing : List String
  /-- The names of the migrations on record, in order of their versions. -/
  applied : List String
  /-- The names of the migrations in the directory that are not on record. -/
  pending : List String
  deriving DecidableEq, Repr

/-- Whether nothing is left to apply. -/
def SchemaReport.isCurrent (r : SchemaReport) : Bool := r.missing.isEmpty && r.pending.isEmpty

namespace Migration

/-! ### Reading migrations -/

/-- Leaves out the extension `.sql`, as often as it is there. -/
def stripExtension (reversed : List Char) : List Char :=
  match reversed with
  | 'l' :: 'q' :: 's' :: '.' :: rest => stripExtension rest
  | other => other

/-- The name of the migration in a file. -/
def nameOf (fileName : String) : String :=
  String.ofList (stripExtension fileName.toList.reverse).reverse

/-- The greatest version: versions are 32-bit words. -/
def maxVersion : Nat := 4294967295

/-- The version that a name opens with, before the first underscore. -/
def versionOf? (name : String) : Option Nat :=
  Text.numeral? maxVersion (String.ofList (name.toList.takeWhile (· != '_')))

/-- The migration in a file. -/
def ofFile (fileName : String) (node : Node) : Except Failure Migration :=
  let name := nameOf fileName
  match versionOf? name, node with
  | none, _ => .error (.config ("Migration without numeric version: " ++ fileName))
  | some version, .file (.octets octets) =>
    match Text.ofOctets? octets with
    | some text => .ok { version, name, text }
    | none => .error .io
  | some _, _ => .error .io

/-- The migrations in a directory, in order of their versions; those with one version, in order of
their file names. -/
def load (files : FileTree) (directory : String) : Except Failure (List Migration) :=
  match files.locate? directory with
  | none => .error .io
  | some place =>
    if files.isDirectoryAt place then do
      let scripts := (files.entries place).filter fun e => Text.extension? e.1 == some "sql"
      let found ← scripts.mapM fun e => ofFile e.1 e.2
      pure (found.mergeSort fun a b => decide (a.version ≤ b.version))
    else .error .io

/-! ### Applying migrations -/

/-- The name of the table in which migrations are recorded. -/
def recordTable : String := "schema_migrations"

/-- The table in which migrations are recorded. -/
def createRecord : Statement := .createTable true ⟨recordTable, ["version", "name", "applied_at"]⟩

/-- The tables that every index needs. -/
def neededTables : List String := ["dumps", recordTable, "triples"]

/-- The names of the migrations on record, in order of their versions. -/
def applied (d : Database) : Except Failure (List String) :=
  if d.schema.hasColumns recordTable ["version", "name"] then
    .ok ((d.applied.mergeSort fun a b => decide (a.1 ≤ b.1)).map Prod.snd)
  else .error .database

/-- Puts a migration on record, unless there is no record or its version is on it already. -/
def enter (m : Migration) (d : Database) : Option Database :=
  if d.schema.hasColumns recordTable ["version", "name"] && !d.applied.any (·.1 == m.version) then
    some { d with applied := d.applied ++ [(m.version, m.name)] }
  else none

/-- Applies one migration: within a transaction, the script is carried out and put on record. -/
def apply (execute : Execution) (m : Migration) : Database.Operation Unit := fun d =>
  match execute m.text d with
  | .failed saved => (.error .database, saved)
  | .succeeded saved unsaved =>
    match m.enter unsaved with
    | some d => (.ok (), d)
    | none => (.error .database, saved)
  -- what is recorded without a transaction stays, but then there is none that could be ended
  | .ended saved => (.error .database, (m.enter saved).getD saved)

/-- Applies migrations one after another, until one fails. -/
def applyEach (execute : Execution) : List Migration → Database.Operation Unit
  | [], d => (.ok (), d)
  | m :: rest, d =>
    match m.apply execute d with
    | (.ok (), d) => applyEach execute rest d
    | (.error failure, d) => (.error failure, d)

/-- Applies the migrations that are not on record.  The record is made before anything else. -/
def run (execute : Execution) (migrations : Except Failure (List Migration)) :
    Database.Operation Unit := fun d =>
  match d.schema.apply createRecord with
  | none => (.error .database, d)
  | some schema =>
    let d := { d with schema }
    match applied d, migrations with
    | .error failure, _ => (.error failure, d)
    | .ok _, .error failure => (.error failure, d)
    | .ok done, .ok migrations =>
      applyEach execute (migrations.filter fun m => !done.contains m.name) d

/-- How an index file stands against migrations. -/
def inspect (migrations : Except Failure (List Migration)) (d : Database) :
    Except Failure SchemaReport := do
  let tables := d.schema.tableNames
  let done ← if tables.contains recordTable then applied d else pure []
  let known ← migrations
  pure {
    missing := neededTables.filter fun table => !tables.contains table
    applied := done
    pending := (known.map Migration.name).filter fun name => !done.contains name }

end Migration

end GraphAnswers
