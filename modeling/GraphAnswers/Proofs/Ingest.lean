import GraphAnswers.Proofs.IndexFile
import GraphAnswers.Proofs.Intake
/-!
# Taking a dump in, on an index file

Either a dump is taken in, and then the index holds what `Store.Ingested` says; or the file holds
the index that it held before (`FileTree.ingest_exact`).
-/
namespace GraphAnswers

namespace Database

/-- Whether the file has the tables of an index. -/
structure HasTables (d : Database) : Prop where
  rows : d.needRows = .ok ()
  dumps : d.needDumps = .ok ()

theorem HasTables.withStore {d : Database} (h : d.HasTables) (s : Store) :
    ({ d with store := s } : Database).HasTables := ⟨h.rows, h.dumps⟩

/-- A change that fails leaves the file as it was. -/
theorem changing_error {α : Type} {change : Database → Except Failure (Store × α)} {d d' : Database}
    {f : Failure} (h : changing change d = (.error f, d')) : d' = d := by
  unfold changing at h
  split at h
  · split at h
    · cases h
    · exact (Prod.mk.inj h).2.symm
  · exact (Prod.mk.inj h).2.symm

theorem changing_ok_iff {α : Type} {change : Database → Except Failure (Store × α)}
    {d d' : Database} {a : α} : changing change d = (.ok a, d') ↔
      ∃ s, change d = .ok (s, a) ∧ s.rows.length ≤ Store.maxRows ∧ d' = { d with store := s } := by
  unfold changing
  constructor
  · intro h
    split at h
    · rename_i s b hs
      split at h
      · obtain ⟨h1, rfl⟩ := Prod.mk.inj h
        cases h1
        exact ⟨s, hs, ‹_›, rfl⟩
      · cases h
    · cases h
  · rintro ⟨s, hs, hroom, rfl⟩
    simp only [hs, if_pos hroom]

/-- **When a dump is taken in, and what comes of it**: the batch must fit, each line be readable, no
other dump be recorded under the path, and the file have room for the rows. -/
theorem ingest_ok_iff {d d' : Database} (ht : d.HasTables) {options : IngestOptions} {now : Nat}
    {dump : DumpFile} {stats : IngestStats} :
    ingest options now dump d = (.ok stats, d') ↔
      options.batchSize ≤ maxBatch ∧
      ∃ lines, dump.readLines = .ok lines ∧
        stats = Dump.statsOf options.maxObjectLength options.filter lines ∧
        d.store.HasPlaceFor (dump.recordAt now stats) ∧
        d'.store.rows.length ≤ Store.maxRows ∧
        d' = { d with
          store := d.store.withDump (dump.recordAt now stats)
            (Dump.accepted options.maxObjectLength options.filter lines) } := by
  unfold ingest
  rw [changing_ok_iff]
  simp only [ht.rows, ht.dumps, bind_ok_iff, Store.record_ok_iff, true_and, exists_const]
  constructor
  · rintro ⟨s, ⟨⟨s', stats'⟩, htaken, s'', ⟨hplace, rfl⟩, heq⟩, hroom, rfl⟩
    cases heq
    obtain ⟨hb, lines, hlines, rfl, rfl⟩ := Store.takeIn_ok_iff.mp htaken
    exact ⟨hb, lines, hlines, rfl, hplace, hroom, rfl⟩
  · rintro ⟨hb, lines, hlines, rfl, hplace, hroom, rfl⟩
    exact ⟨_, ⟨_, Store.takeIn_ok_iff.mpr ⟨hb, lines, hlines, rfl, rfl⟩, _, ⟨hplace, rfl⟩, rfl⟩,
      hroom, rfl⟩

theorem ingest_batchSize {options : IngestOptions} {size : Nat} (now : Nat) (dump : DumpFile)
    (h : options.batchSize ≤ maxBatch) (hsize : size ≤ maxBatch) :
    ingest { options with batchSize := size } now dump = ingest options now dump := by
  unfold ingest
  simp only [Store.takeIn_batchSize dump h hsize]

/-- Dumps are removed from any index that is in order. -/
theorem deleteDumps_eq {d : Database} (ht : d.HasTables) {paths : List String}
    (hroom : (d.store.deleteDumps paths).1.rows.length ≤ Store.maxRows) :
    deleteDumps paths d =
      (.ok (d.store.deleteDumps paths).2, { d with store := (d.store.deleteDumps paths).1 }) := by
  unfold deleteDumps
  rw [changing_ok_iff]
  exact ⟨_, by rw [ht.rows, ht.dumps]; rfl, hroom, rfl⟩

/-- An index with tables answers from its store. -/
theorem HasTables.index {d : Database} (h : d.HasTables) : d.index = d.store.index := by
  unfold Database.index
  rw [h.rows]
  rfl

theorem HasTables.state {d : Database} (h : d.HasTables) : d.state = d.store.state := by
  unfold Database.state
  rw [h.dumps]
  rfl

end Database

/-! ### What an index holds after it -/

/-- **What taking a dump in leaves**: the rows and the records of dumps, before and after, and
what is told of it. -/
structure Store.Ingested (before after : Store) (options : IngestOptions) (now : Nat)
    (dump : DumpFile) (stats : IngestStats) (lines : List String) : Prop where
  /-- The dump's rows carry the triples of its lines that the filter accepts. -/
  rows : ∀ t, Row.mk t (dumpId dump.path) ∈ after.rows ↔
    ∃ line ∈ lines, Dump.scan options.maxObjectLength line = some t ∧
      options.filter.accepts t = true
  /-- None of its rows is there twice. -/
  once : (after.rows.filter fun row => row.dump = dumpId dump.path).Nodup
  otherRows : (after.rows.filter fun row => row.dump ≠ dumpId dump.path) =
    before.rows.filter fun row => row.dump ≠ dumpId dump.path
  /-- There was no other dump of this path. -/
  free : ∀ e ∈ before.dumps, e.path = dump.path → e.id = dumpId dump.path
  /-- The dump has one record; its count is that of its rows. -/
  dumps : ∀ e, e ∈ after.dumps ↔
    e = { id := dumpId dump.path
          path := dump.path
          hash := contentHash dump.octets
          tripleCount := (after.rows.filter fun row => row.dump = dumpId dump.path).length
          ingestedAt := now } ∨
      (e ∈ before.dumps ∧ e.id ≠ dumpId dump.path)
  distinctDumps : (before.dumps.map DumpRecord.id).Nodup → (after.dumps.map DumpRecord.id).Nodup
  lineCount : stats.lines = lines.length
  skippedCount : stats.skipped = lines.countP fun line =>
    !(Dump.scan options.maxObjectLength line).any options.filter.accepts
  tripleCount : stats.triples =
    (lines.filterMap fun line =>
      (Dump.scan options.maxObjectLength line).filter options.filter.accepts).eraseDups.length

theorem Store.ingested_withDump {s : Store} {options : IngestOptions} {now : Nat} {dump : DumpFile}
    {lines : List String} {r : DumpRecord} {ts : List Triple}
    (hr : r = dump.recordAt now (Dump.statsOf options.maxObjectLength options.filter lines))
    (hts : ts = Dump.accepted options.maxObjectLength options.filter lines)
    (hfree : s.HasPlaceFor r) (hroom : (s.withDump r ts).rows.length ≤ maxRows) :
    s.Ingested (s.withDump r ts) options now dump
      (Dump.statsOf options.maxObjectLength options.filter lines) lines := by
  have hid : dumpId dump.path = r.id := by
    rw [hr]
    rfl
  have hpath : dump.path = r.path := by
    rw [hr]
    rfl
  have hown := s.ownRows_withDump r ts
  have hcount : ((s.withDump r ts).rows.filter fun row => decide (row.dump = r.id)).length =
      ts.eraseDups.length := by
    rw [hown, List.length_map]
  -- the rows are not too many to be counted
  have hrecord : r =
      { id := dumpId dump.path
        path := dump.path
        hash := contentHash dump.octets
        tripleCount := ((s.withDump r ts).rows.filter fun row => decide (row.dump = r.id)).length
        ingestedAt := now } := by
    rw [hcount, ← signedCount_of_room s r ts hroom, hts]
    exact hr
  refine
    { rows := fun t => ?_
      once := ?_
      otherRows := ?_
      free := fun e he hep => ?_
      dumps := fun e => ?_
      distinctDumps := nodup_ids_putRecord (s.replaceTriples r.id ts) r
      lineCount := rfl
      skippedCount := ?_
      tripleCount := rfl }
  · rw [hid, mem_rows_withDump, hts, ← Dump.mem_accepted]
    simp
  · rw [hid, hown]
    exact (nodup_eraseDups ts).map fun t t' h => congrArg Row.triple h
  · rw [hid]
    exact filter_rows_withDump s r ts fun t => by simp
  · rw [hid]
    exact hfree e he (hep.trans hpath)
  · rw [mem_dumps_withDump]
    simp only [hid] at hrecord ⊢
    rw [← hrecord]
  · exact List.countP_congr fun line _ => by rw [Dump.accepted?_isNone]

namespace FileTree

/-- **Taking a dump in is exact, and all or nothing.**  If it succeeds, the index holds the dump
as it was read, and any other size of the batches, as long as room for one can be set aside, leads
to the same: beyond `maxBatch` the dump is refused before a line of it is read, so there no success
is to be compared.  If it fails, the index holds what it held before. -/
theorem ingest_exact {t t' : FileTree} {index : String} {d : Database}
    (hd : t.database? index = some d) (ht : d.HasTables) {options : IngestOptions} {now : Nat}
    {file path : String} {outcome : Except Failure IngestStats}
    (h : t.ingest index options now file path = (outcome, t')) :
    (∃ stats octets lines after,
      outcome = .ok stats ∧
      t.read file = .ok octets ∧
      (DumpFile.mk path (Text.fileName file) octets).readLines = .ok lines ∧
      t'.database? index = some { d with store := after } ∧
      d.store.Ingested after options now ⟨path, Text.fileName file, octets⟩ stats lines ∧
      ∀ size ≤ maxBatch,
        t.ingest index { options with batchSize := size } now file path = (.ok stats, t')) ∨
    (∃ failure, outcome = .error failure ∧ t'.database? index = some d) := by
  have hall := h
  unfold ingest at h
  cases hread : t.read file with
  | error failure =>
    rw [hread] at h
    cases h
    exact .inr ⟨failure, rfl, hd⟩
  | ok octets =>
    rw [hread] at h
    rcases onIndex_cases hd h with ⟨hout, hd'⟩ | ⟨hout, hd'⟩
    · rcases hrun : Database.ingest options now ⟨path, Text.fileName file, octets⟩ d with ⟨out, d'⟩
      rw [hrun] at hout hd'
      dsimp only at hout hd'
      cases out with
      | error failure =>
        rw [Database.changing_error hrun] at hd'
        exact .inr ⟨failure, hout, hd'⟩
      | ok stats =>
        obtain ⟨hb, lines, hlines, rfl, hfree, hroom, rfl⟩ := (Database.ingest_ok_iff ht).mp hrun
        refine .inl ⟨_, octets, lines, _, hout, rfl, hlines, hd',
          Store.ingested_withDump rfl rfl hfree hroom, fun size hsize => ?_⟩
        rw [← hout, ← hall]
        unfold ingest
        rw [hread]
        dsimp only
        rw [Database.ingest_batchSize now _ hb hsize]
    · exact .inr ⟨_, hout, hd'⟩

/-- An index of one row, and beside it a dump of two lines. -/
def sample : FileTree :=
  (empty.set ["f.db"] (.file (.index
    { schema := { tables := [
        ⟨"triples", ["subject", "predicate", "object", "dump_id"]⟩,
        ⟨"dumps", ["dump_id", "dump_path", "file_hash", "triple_count", "ingested_at"]⟩] }
      store := { rows := [⟨⟨"m.2", "name", "B"⟩, "other"⟩] } }))).set
    ["a.nt"] (.file (.octets [109, 46, 49, 32, 110, 32, 65, 10, 35, 10]))

theorem sample_ingested : ∃ before after octets lines,
    sample.database? "f.db" = some before ∧ before.HasTables ∧
    (sample.ingest "f.db" {} 1 "a.nt" "a.nt").1 = .ok ⟨2, 1, 1⟩ ∧
    before.store.Ingested after {} 1 ⟨"a.nt", "a.nt", octets⟩ ⟨2, 1, 1⟩ lines := by
  obtain ⟨d, hd⟩ : ∃ d, sample.database? "f.db" = some d :=
    Option.isSome_iff_exists.mp (by decide +kernel)
  have hrows : (sample.database? "f.db").map Database.needRows = some (.ok ()) := by decide +kernel
  have hdumps : (sample.database? "f.db").map Database.needDumps = some (.ok ()) := by
    decide +kernel
  have hok : (sample.ingest "f.db" {} 1 "a.nt" "a.nt").1 = .ok ⟨2, 1, 1⟩ := by decide +kernel
  have ht : d.HasTables := by
    rw [hd] at hrows hdumps
    exact ⟨Option.some.inj hrows, Option.some.inj hdumps⟩
  rcases ingest_exact hd ht (h := Prod.ext hok rfl) with
    ⟨stats, octets, lines, after, hstats, _, _, _, hdone, _⟩ | ⟨failure, hfailure, _⟩
  · cases hstats
    exact ⟨d, after, octets, lines, hd, ht, hok, hdone⟩
  · cases hfailure

end FileTree

end GraphAnswers
