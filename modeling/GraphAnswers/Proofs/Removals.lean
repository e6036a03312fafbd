import GraphAnswers.Proofs.IngestProgram
import GraphAnswers.Proofs.Integrity
/-!
# Removing dumps

Dumps are removed by their paths, one after another, from two tables that know them by their
identifiers.  What is left is told by the set of the identifiers: the rows and records of all other
dumps (`Store.deleteDumps_congr`).  So neither the order of the paths matters, nor whether one is
given twice or is not known, nor whether each has a call of its own
(`FileTree.Holds.removeEach_eq`).

Which dumps have vanished is told by the paths.  Where every record has the identifier of its path,
removing those leaves the records of the other paths, and then none has vanished any more
(`FileTree.Holds.removals_exact`).
-/
namespace GraphAnswers

/-! ### Stores -/

namespace Store

/-- Two stores that have the same rows left have lost the same number of them. -/
theorem deleteDumps_congr {paths paths' : List String}
    (h : ∀ id, id ∈ paths.map dumpId ↔ id ∈ paths'.map dumpId) (s : Store) :
    s.deleteDumps paths = s.deleteDumps paths' := by
  have hstore : (s.deleteDumps paths).1 = (s.deleteDumps paths').1 := by
    simp only [deleteDumps_fst, h]
  have hcount := (s.removes_deleteDumps paths).shrunk
  have hcount' := (s.removes_deleteDumps paths').shrunk
  rw [hstore] at hcount
  exact Prod.ext hstore (by omega)

theorem length_rows_deleteDumps_le (s : Store) (paths : List String) :
    (s.deleteDumps paths).1.rows.length ≤ s.rows.length := by
  rw [deleteDumps_fst]
  exact List.length_filter_le _ _

/-- What is left when the paths are removed that are not among given ones. -/
theorem dumps_deleteVanished {s : Store} (hdistinct : (s.dumps.map DumpRecord.id).Nodup)
    (hkeyed : ∀ e ∈ s.dumps, e.id = dumpId e.path) (existing : List String) :
    (s.deleteDumps (s.vanished existing).toList).1.dumps =
      s.dumps.filter fun e => decide (e.path ∈ existing) := by
  rw [deleteDumps_fst]
  exact List.filter_congr fun e he =>
    decide_eq_decide.mpr (id_notMem_vanished_iff hdistinct hkeyed he)

/-- Where all records are of given paths, none has vanished. -/
theorem vanished_eq_empty {s : Store} {existing : List String}
    (h : ∀ e ∈ s.dumps, e.path ∈ existing) : s.vanished existing = .empty := by
  refine SortedSet.ext fun path => ?_
  rw [SortedSet.mem_def, mem_vanished]
  refine iff_of_false ?_ (SortedSet.not_mem_empty path)
  rintro ⟨⟨e, he, rfl⟩, hgone⟩
  exact hgone (h e he)

end Store

/-! ### Index files -/

/-- **An index**: it has its tables, the keys in them are unique, and there was room for its rows. -/
structure Database.IsIndex (d : Database) : Prop where
  tables : d.HasTables
  keys : d.store.HasKeys
  room : d.store.rows.length ≤ Store.maxRows

namespace FileTree

/-- Removes dumps from the index at a path by a call for each of them, up to one that fails, and
counts the rows. -/
def removeEach (t : FileTree) (path : String) : List String → Except Failure Nat × FileTree
  | [] => (.ok 0, t)
  | dump :: rest =>
    match t.removeDumps path [dump] with
    | (.error failure, t) => (.error failure, t)
    | (.ok removed, t) => (t.removeEach path rest).map (Except.map (removed + ·)) id

/-- The paths on record in the index at a path that are not among existing ones. -/
def findVanished (t : FileTree) (path : String) (existing : List String) :
    Except Failure (SortedSet String) × FileTree :=
  t.onIndex path (Database.reading fun d => d.vanished existing)

namespace Holds

variable {t : FileTree} {path : String} {o : Opening} {d : Database}

/-- **Removing dumps** from an index succeeds, and leaves the rest of the store. -/
theorem removeDumps_eq (h : t.Holds path o d) (htables : d.HasTables)
    (hroom : d.store.rows.length ≤ Store.maxRows) (dumps : List String) :
    t.removeDumps path dumps = (.ok (d.store.deleteDumps dumps).2,
      t.set o.place (.file (.index { d with store := (d.store.deleteDumps dumps).1 }))) := by
  unfold removeDumps
  split
  · -- the file is not even opened
    rename_i hempty
    obtain rfl := List.isEmpty_iff.mp hempty
    exact congrArg (Prod.mk _) (h.set_self htables.ne_empty).symm
  · rw [h.onIndex_eq, Database.deleteDumps_eq htables
      (Nat.le_trans (d.store.length_rows_deleteDumps_le dumps) hroom)]

/-- **A call for each dump** comes to the same as one call for all. -/
theorem removeEach_eq (h : t.Holds path o d) (htables : d.HasTables)
    (hroom : d.store.rows.length ≤ Store.maxRows) (dumps : List String) :
    t.removeEach path dumps = t.removeDumps path dumps := by
  induction dumps generalizing t d with
  | nil => rfl
  | cons dump rest ih =>
    have hone : d.store.deleteDumps [dump] = d.store.deleteDump dump := rfl
    have hroom' : (d.store.deleteDump dump).1.rows.length ≤ Store.maxRows :=
      Nat.le_trans (d.store.length_rows_deleteDumps_le [dump]) hroom
    unfold removeEach
    rw [h.removeDumps_eq htables hroom [dump], hone]
    dsimp only
    rw [ih (h.set _) (htables.withStore _) hroom',
      (h.set _).removeDumps_eq (htables.withStore _) hroom', set_set,
      h.removeDumps_eq htables hroom (dump :: rest)]
    rfl

theorem findVanished_eq (h : t.Holds path o d) (htables : d.HasTables) (existing : List String) :
    t.findVanished path existing = (.ok (d.store.vanished existing), t) := by
  have hvanished : d.vanished existing = .ok (d.store.vanished existing) := by
    unfold Database.vanished
    rw [htables.dumps]
    rfl
  unfold findVanished
  rw [h.onIndex_eq, Database.reading, hvanished, h.set_self htables.ne_empty]

/-- **Removing dumps removes exactly these.**  Whatever paths are given, a call succeeds; it leaves
the rows and records, in their order, whose identifiers are not those of the paths, counts the rows
that are gone, and comes to the same for the paths in another order and by a call for each.  If
every record has the identifier of its path, then removing the paths that are found to have vanished
leaves the records whose paths exist, and after that none is found. -/
theorem removals_exact (h : t.Holds path o d) (hindex : d.IsIndex) :
    (∀ dumps, ∃ removed s,
      t.removeDumps path dumps =
        (.ok removed, t.set o.place (.file (.index { d with store := s }))) ∧
      s.rows = d.store.rows.filter (fun row => decide (row.dump ∉ dumps.map dumpId)) ∧
      s.dumps = d.store.dumps.filter (fun e => decide (e.id ∉ dumps.map dumpId)) ∧
      s.rows.length + removed = d.store.rows.length ∧
      (∀ dumps', dumps'.Perm dumps → t.removeDumps path dumps' = t.removeDumps path dumps) ∧
      t.removeEach path dumps = t.removeDumps path dumps) ∧
    ((∀ e ∈ d.store.dumps, e.id = dumpId e.path) → ∀ existing, ∃ gone removed t' s,
      t.findVanished path existing = (.ok gone, t) ∧
      t.removeDumps path gone.toList = (.ok removed, t') ∧
      t'.database? path = some { d with store := s } ∧
      s.dumps = d.store.dumps.filter (fun e => decide (e.path ∈ existing)) ∧
      t'.findVanished path existing = (.ok .empty, t')) := by
  constructor
  · intro dumps
    have heq := h.removeDumps_eq hindex.tables hindex.room
    refine ⟨_, _, heq dumps, by rw [Store.deleteDumps_fst], by rw [Store.deleteDumps_fst],
      (d.store.removes_deleteDumps dumps).shrunk, fun dumps' hperm => ?_,
      h.removeEach_eq hindex.tables hindex.room dumps⟩
    rw [heq, heq, Store.deleteDumps_congr fun id => (hperm.map dumpId).mem_iff]
  · intro hkeyed existing
    have hleft := Store.dumps_deleteVanished hindex.keys.ids hkeyed existing
    have hafter := h.set
      { d with store := (d.store.deleteDumps (d.store.vanished existing).toList).1 }
    refine ⟨_, _, _, _, h.findVanished_eq hindex.tables existing,
      h.removeDumps_eq hindex.tables hindex.room _, hafter.database?, hleft, ?_⟩
    rw [hafter.findVanished_eq (hindex.tables.withStore _)]
    refine congrArg (fun gone => (Except.ok gone, _)) (Store.vanished_eq_empty fun e he => ?_)
    rw [hleft, List.mem_filter, decide_eq_true_eq] at he
    exact he.2

end Holds

/-! ### Two dumps -/

/-- The record of a dump with one row. -/
def oneRow (path : String) : DumpRecord := ⟨dumpId path, path, "", 1, 0⟩

/-- An index of two dumps with one row each. -/
def ofTwoDumps : Database where
  schema := Migration.fresh.schema
  applied := Migration.fresh.applied
  store := {
    rows := ["a.nt", "b.nt"].map fun path => ⟨⟨"m.1", "label", "Jaws @en"⟩, dumpId path⟩
    dumps := ["a.nt", "b.nt"].map oneRow }

theorem isIndex_ofTwoDumps : ofTwoDumps.IsIndex where
  tables := ⟨by decide, by decide⟩
  keys := ⟨by decide +kernel, by decide +kernel, by decide +kernel⟩
  room := by decide

theorem removals_exact_ofTwoDumps :
    ((withIndex ofTwoDumps).removeDumps "./f.db" ["b.nt", "c.nt", "b.nt"]).1 = .ok 1 ∧
    (∀ e ∈ ofTwoDumps.store.dumps, e.id = dumpId e.path) ∧
    ∃ gone removed t' s, (withIndex ofTwoDumps).findVanished "./f.db" ["a.nt"] =
        (.ok gone, withIndex ofTwoDumps) ∧
      (withIndex ofTwoDumps).removeDumps "./f.db" gone.toList = (.ok removed, t') ∧
      t'.database? "./f.db" = some { ofTwoDumps with store := s } ∧
      s.dumps = [oneRow "a.nt"] ∧ t'.findVanished "./f.db" ["a.nt"] = (.ok .empty, t') := by
  obtain ⟨hremoves, hvanished⟩ := (holds_withIndex ofTwoDumps).removals_exact isIndex_ofTwoDumps
  have hkeyed : ∀ e ∈ ofTwoDumps.store.dumps, e.id = dumpId e.path := by
    intro e he
    obtain ⟨path, _, rfl⟩ := List.mem_map.mp he
    rfl
  refine ⟨?_, hkeyed, ?_⟩
  · obtain ⟨removed, s, hrun, hrows, _, hcount, _⟩ := hremoves ["b.nt", "c.nt", "b.nt"]
    have hleft : (ofTwoDumps.store.rows.filter fun row =>
        decide (row.dump ∉ ["b.nt", "c.nt", "b.nt"].map dumpId)).length = 1 := by
      decide +kernel
    rw [← hrows] at hleft
    have htwo : ofTwoDumps.store.rows.length = 2 := rfl
    rw [hrun]
    exact congrArg Except.ok (by omega)
  · exact hvanished hkeyed ["a.nt"]

end FileTree

end GraphAnswers
