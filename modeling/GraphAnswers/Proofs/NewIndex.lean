import GraphAnswers.Migration.Standard
import GraphAnswers.Proofs.Ingest
import GraphAnswers.Proofs.Octets
/-!
# What the standard migrations make of an empty file

A file with the tables of an index, and with nothing in them (`Migration.setUp_empty`).  Runs start
from it; the smallest of them have one dump beside it (`FileTree.withIndex`).
-/
namespace GraphAnswers

namespace Migration

theorem lookup_rowsScript :
    [(rowsScript, rowsStatements), (dumpsScript, dumpsStatements)].lookup rowsScript =
      some rowsStatements :=
  List.lookup_cons_self

theorem lookup_dumpsScript :
    [(rowsScript, rowsStatements), (dumpsScript, dumpsStatements)].lookup dumpsScript =
      some dumpsStatements := by
  have hother : (dumpsScript == rowsScript) = false := by
    decide
  rw [List.lookup_cons, hother]
  exact List.lookup_cons_self

theorem standard_eq : standard = .ok [
    ⟨1, "001_triples", rowsScript⟩, ⟨2, "002_dumps", dumpsScript⟩] := by
  have hfile (name fileName text : String) (version : Nat) (hname : nameOf fileName = name)
      (hversion : versionOf? name = some version) :
      ofFile fileName (.file (.octets (Text.octets text))) = .ok ⟨version, name, text⟩ := by
    unfold ofFile
    simp only [hname, hversion, Text.ofOctets?_octets]
  unfold standard standardFiles
  rw [List.mapM_cons, List.mapM_cons, List.mapM_nil]
  rw [hfile "001_triples" _ _ 1 (by decide) (by decide)]
  rw [hfile "002_dumps" _ _ 2 (by decide) (by decide)]
  rfl

/-- An index without rows and dumps, as a new installation has it. -/
def fresh : Database where
  schema := {
    tables := [⟨recordTable, ["version", "name", "applied_at"]⟩, rowsTable, dumpsTable]
    indexes := ["idx_triples_predicate_subject", "idx_triples_predicate_object",
      "idx_triples_dump"] }
  applied := [(1, "001_triples"), (2, "002_dumps")]

section Applying

variable {execute : Execution} {m : Migration} {migrations rest : List Migration}
  {d d' saved unsaved : Database}

theorem run_ok {schema : Schema} {done : List String}
    (hschema : d.schema.apply createRecord = some schema)
    (hdone : applied { d with schema } = .ok done) : run execute (.ok migrations) d =
      applyEach execute (migrations.filter fun m => !done.contains m.name) { d with schema } := by
  unfold run
  simp only [hschema, hdone]

theorem apply_ok (hscript : execute m.text d = .succeeded saved unsaved)
    (hentered : m.enter unsaved = some d') : m.apply execute d = (.ok (), d') := by
  unfold apply
  simp only [hscript, hentered]

theorem ofStatements_ok {statements? : String → Option (List Statement)} {text : String}
    {statements : List Statement} {schema : Schema} (htext : statements? text = some statements)
    (hschema : d.schema.applyAll statements = some schema) :
    Execution.ofStatements statements? text d = .succeeded d { d with schema } := by
  unfold Execution.ofStatements
  rw [htext, Option.bind_some, hschema]

theorem applyEach_cons (h : m.apply execute d = (.ok (), d')) :
    applyEach execute (m :: rest) d = applyEach execute rest d' := by
  rw [applyEach, h]

end Applying

/-- A file with nothing but the record of migrations. -/
def recorded : Database where
  schema := { tables := [⟨recordTable, ["version", "name", "applied_at"]⟩] }

/-- A file after the first migration. -/
def withRows : Database where
  schema := {
    tables := [⟨recordTable, ["version", "name", "applied_at"]⟩, rowsTable]
    indexes := fresh.schema.indexes }
  applied := [(1, "001_triples")]

theorem apply_rows :
    apply standardExecution ⟨1, "001_triples", rowsScript⟩ recorded = (.ok (), withRows) := by
  have hschema : recorded.schema.applyAll rowsStatements = some withRows.schema := by
    decide
  exact apply_ok (ofStatements_ok lookup_rowsScript hschema) (by decide)

theorem apply_dumps :
    apply standardExecution ⟨2, "002_dumps", dumpsScript⟩ withRows = (.ok (), fresh) := by
  have hschema : withRows.schema.applyAll dumpsStatements = some fresh.schema := by
    decide
  exact apply_ok (ofStatements_ok lookup_dumpsScript hschema) (by decide)

/-- **A new index.** -/
theorem setUp_empty : setUp .empty = (.ok (), fresh) := by
  have hrecord : (Database.empty.schema).apply createRecord = some recorded.schema := by
    decide
  have happlied : applied { Database.empty with schema := recorded.schema } = .ok [] := by
    decide +kernel
  unfold setUp
  rw [standard_eq, run_ok hrecord happlied]
  have hall (l : List Migration) : (l.filter fun m => !([] : List String).contains m.name) = l :=
    List.filter_eq_self.mpr fun m _ => rfl
  rw [hall]
  have hstart : ({ Database.empty with schema := recorded.schema } : Database) = recorded := rfl
  rw [hstart, applyEach_cons apply_rows, applyEach_cons apply_dumps]
  rfl

theorem fresh_hasTables : fresh.HasTables where
  rows := by decide
  dumps := by decide

end Migration

/-! ### A new index beside a dump -/

namespace FileTree

/-- The text of a dump. -/
def jaws : List UInt8 := Text.octets "m.1 label Jaws @en\nm.1 type film.film\n"

/-- A dump, and no index. -/
def oneDump : FileTree := empty.set ["a.nt"] (.file (.octets jaws))

/-- The files when the index holds something. -/
def withIndex (d : Database) : FileTree := oneDump.set ["f.db"] (.file (.index d))

/-- The index is found in its place, or is made there. -/
theorem opening?_of_place {t : FileTree} (h : t.place? "./f.db" = some (["f.db"], none)) :
    t.opening? "./f.db" = some { place := ["f.db"] } := by
  have hmeant : meant? "./f.db" = some ("./f.db", []) := by decide +kernel
  rw [opening?_eq, hmeant, Option.bind_some, h, Option.map_some, Option.bind_some]
  rfl

theorem opening?_oneDump : oneDump.opening? "./f.db" = some { place := ["f.db"] } :=
  opening?_of_place (by decide)

theorem holds_withIndex (d : Database) : (withIndex d).Holds "./f.db" { place := ["f.db"] } d :=
  holds_set opening?_oneDump rfl (by decide) d

theorem onIndex_oneDump : oneDump.onIndex "./f.db" Migration.setUp =
    (.ok (), withIndex Migration.fresh) := by
  rw [onIndex_eq opening?_oneDump (d := .empty) (by decide) (.inl rfl) rfl
    (by decide), Migration.setUp_empty]
  rfl

end FileTree

end GraphAnswers
