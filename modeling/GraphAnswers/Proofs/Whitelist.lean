import GraphAnswers.Proofs.AskedFields
import GraphAnswers.Proofs.IngestProgram
import GraphAnswers.Proofs.NewIndex
/-!
# Taking in some predicates only

A list of predicates keeps an index small.  It does not change what is answered, as long as it names
every field that questions ask for (`Engine.fields`): the smaller index then holds all the rows that
a question can come upon (`Store.PartOf`), dump by dump.  That it holds fewer rows is needed too,
for a file that has room for the whole has room for the part.
-/
namespace GraphAnswers

/-- The same way of taking dumps in, but for the predicates kept. -/
def IngestOptions.keeping (options : IngestOptions) (predicates : List String) : IngestOptions :=
  { options with filter := { options.filter with predicates } }

/-- The lines of a dump give the triples with the predicates kept. -/
theorem Dump.accepted_keeping {keep : List String} (hkeep : keep ≠ []) (options : IngestOptions)
    (lines : List String) :
    accepted options.maxObjectLength (options.keeping keep).filter lines =
      (accepted options.maxObjectLength (options.keeping []).filter lines).filter
        fun t => keep.contains t.predicate := by
  have hnamed : keep.isEmpty = false := by simpa using hkeep
  have haccepts (t : Triple) : (options.keeping keep).filter.accepts t =
      ((options.keeping []).filter.accepts t && keep.contains t.predicate) := by
    simp [Filter.accepts, IngestOptions.keeping, hnamed, Bool.and_comm]
  unfold accepted
  rw [List.filter_filterMap]
  refine List.filterMap_congr fun line _ => ?_
  unfold accepted?
  cases scan options.maxObjectLength line with
  | none => rfl
  | some t => cases h : (options.keeping []).filter.accepts t <;> simp [Option.filter, haccepts, h]

/-! ### A store and the part of it that is asked for -/

/-- What tells whether another dump may be recorded under a path. -/
def DumpRecord.owner (e : DumpRecord) : String × String := (e.id, e.path)

theorem DumpFile.owner_recordAt (dump : DumpFile) (now : Nat) (stats : IngestStats) :
    (dump.recordAt now stats).owner = (dumpId dump.path, dump.path) := rfl

namespace Store

/-- Whether a store is the part of another that was taken in with these predicates only. -/
structure PartOf (keep : List String) (part whole : Store) : Prop where
  rows : part.rows.Sublist whole.rows
  kept : (part.rows.filter fun row => keep.contains row.triple.predicate) =
    whole.rows.filter fun row => keep.contains row.triple.predicate
  owners : part.dumps.map DumpRecord.owner = whole.dumps.map DumpRecord.owner

variable {keep : List String} {part whole : Store}

theorem PartOf.refl (keep : List String) (s : Store) : PartOf keep s s := ⟨.refl _, rfl, rfl⟩

/-- A selection by a predicate that is kept finds the same rows. -/
theorem PartOf.select (h : PartOf keep part whole) {predicate : String} (hkept : predicate ∈ keep)
    (p : Row → Bool) :
    (part.rows.filter fun row => row.triple.predicate == predicate && p row) =
      whole.rows.filter fun row => row.triple.predicate == predicate && p row := by
  have hthrough (rows : List Row) :
      (rows.filter fun row => row.triple.predicate == predicate && p row) =
        (rows.filter fun row => keep.contains row.triple.predicate).filter
          fun row => row.triple.predicate == predicate && p row := by
    rw [List.filter_filter]
    refine List.filter_congr fun row _ => ?_
    by_cases hrow : row.triple.predicate = predicate
    · simp [hrow, hkept]
    · simp [hrow]
  rw [hthrough part.rows, hthrough whole.rows, h.kept]

/-- **The part answers like the whole** whatever is asked for through the predicates kept. -/
theorem PartOf.agreeOn (h : PartOf keep part whole) (hlabel : Field.label ∈ keep)
    (htype : Field.type ∈ keep) : Inquiry.AgreeOn keep part.index whole.index := by
  have hsubjects {predicate : String} (hkept : predicate ∈ keep) (object : String) :
      part.selectSubjects predicate object = whole.selectSubjects predicate object := by
    unfold selectSubjects
    rw [h.select hkept]
  constructor
  · rintro ⟨field, anchor, role⟩ hfield
    cases role with
    | subject =>
      show nonEmpty ((part.selectObjects field anchor).map shownObject) =
        nonEmpty ((whole.selectObjects field anchor).map shownObject)
      unfold selectObjects
      rw [h.select hfield]
    | object =>
      show nonEmpty (part.selectSubjects field anchor) =
        nonEmpty (whole.selectSubjects field anchor)
      rw [hsubjects hfield]
  · intro term language
    unfold index
    dsimp only
    rw [hsubjects hlabel, hsubjects htype]

theorem hasPlaceFor_iff_owners {s : Store} {r : DumpRecord} :
    s.HasPlaceFor r ↔ ∀ o ∈ s.dumps.map DumpRecord.owner, o.2 = r.path → o.1 = r.id := by
  constructor
  · intro h o ho hpath
    obtain ⟨e, he, rfl⟩ := List.mem_map.mp ho
    exact h e he hpath
  · intro h e he hpath
    exact h e.owner (List.mem_map_of_mem he) hpath

/-- Who owns what after a record is put depends on who owned what before. -/
theorem owners_putRecord (s : Store) (r : DumpRecord) :
    (s.putRecord r).dumps.map DumpRecord.owner =
      if (s.dumps.map DumpRecord.owner).any (·.1 == r.id) then
        (s.dumps.map DumpRecord.owner).map fun o => if o.1 = r.id then r.owner else o
      else s.dumps.map DumpRecord.owner ++ [r.owner] := by
  have hany : (s.dumps.map DumpRecord.owner).any (·.1 == r.id) = s.dumps.any (·.id == r.id) := by
    rw [List.any_map]
    rfl
  rw [hany]
  unfold putRecord
  split
  · rw [List.map_map, List.map_map]
    refine List.map_congr_left fun e _ => ?_
    by_cases he : e.id = r.id <;> simp [DumpRecord.owner, he]
  · rw [List.map_append]
    rfl

/-- The part stays a part when a dump is taken in on both sides. -/
theorem PartOf.withDump (h : PartOf keep part whole) {r r' : DumpRecord}
    (howner : r.owner = r'.owner) (ts : List Triple) :
    PartOf keep (part.withDump r (ts.filter fun t => keep.contains t.predicate))
      (whole.withDump r' ts) := by
  obtain ⟨hid, hpath⟩ := Prod.mk.inj howner
  have hnew : ((ts.filter fun t => keep.contains t.predicate).eraseDups.map
      fun t => Row.mk t r.id) = (ts.eraseDups.map fun t => Row.mk t r'.id).filter
        fun row => keep.contains row.triple.predicate := by
    rw [eraseDups_filter, List.filter_map, hid]
    rfl
  refine ⟨?_, ?_, ?_⟩
  · rw [rows_withDump, rows_withDump, hnew, hid]
    exact (h.rows.filter _).append List.filter_sublist
  · have hold : (part.rows.filter fun row => decide (row.dump ≠ r'.id)).filter
          (fun row => keep.contains row.triple.predicate) =
        (whole.rows.filter fun row => decide (row.dump ≠ r'.id)).filter
          fun row => keep.contains row.triple.predicate := by
      rw [List.filter_comm, h.kept, List.filter_comm]
    rw [rows_withDump, rows_withDump, hnew, hid, List.filter_append, List.filter_append, hold]
    simp
  · show (((part.replaceTriples _ _).putRecord r).dumps.map _) =
      (((whole.replaceTriples _ _).putRecord r').dumps.map _)
    rw [owners_putRecord, owners_putRecord, howner, hid]
    show (if (part.dumps.map _).any _ then (part.dumps.map _).map _ else part.dumps.map _ ++ _) = _
    rw [h.owners]
    rfl

end Store

/-! ### Taking dumps in -/

namespace Database

variable {options : IngestOptions} {now now' : Nat} {keep : List String} {dump : DumpFile}

/-- What is wrong with a dump does not depend on the store, nor on the predicates kept. -/
theorem takeIn_keeping_error {s s' : Store} {keep' : List String} {failure : Failure}
    (h : s.takeIn (options.keeping keep) dump = .error failure) :
    s'.takeIn (options.keeping keep') dump = .error failure := by
  rw [Store.takeIn_eq] at h ⊢
  show (if maxBatch < options.batchSize then _ else _) = _
  change (if maxBatch < options.batchSize then _ else _) = _ at h
  split
  · rwa [if_pos ‹_›] at h
  · rw [if_neg ‹_›] at h
    cases hlines : dump.readLines with
    | error other =>
      rw [hlines] at h
      cases h
      rfl
    | ok lines =>
      rw [hlines] at h
      cases h

/-- A change fails for its own reason, or because the file refuses what it has come to. -/
theorem changing_refused {α : Type} {change : Database → Except Failure (Store × α)}
    {d d' : Database} {failure : Failure} (h : changing change d = (.error failure, d')) :
    failure = .database ∨ change d = .error failure := by
  unfold changing at h
  split at h
  · split at h
    · cases h
    · exact .inl (Except.error.inj (Prod.mk.inj h).1).symm
  · rename_i other hchange
    rw [hchange, Except.error.inj (Prod.mk.inj h).1]
    exact .inr rfl

theorem ingest_of_takeIn_error {d : Database} (ht : d.HasTables) {failure : Failure}
    (h : d.store.takeIn options dump = .error failure) :
    ingest options now dump d = (.error failure, d) := by
  unfold ingest changing
  simp only [ht.rows, h]
  rfl

/-- A dump that is not taken in, and not for the index file's sake, cannot be read. -/
theorem takeIn_error_of_ingest {d d' : Database} (ht : d.HasTables) {failure : Failure}
    (h : ingest options now dump d = (.error failure, d')) (hother : failure ≠ .database) :
    d.store.takeIn options dump = .error failure := by
  have hrefused (s : Store) (r : DumpRecord) : s.record r ≠ .error failure := by
    intro hr
    unfold Store.record at hr
    split at hr
    · exact hother (Except.error.inj hr).symm
    · split at hr <;> cases hr
  rcases changing_refused h with rfl | h
  · exact absurd rfl hother
  · simp only [ht.rows, ht.dumps, bind_error_iff, reduceCtorEq, false_or, true_and,
      exists_const] at h
    rcases h with h | ⟨taken, _, h | ⟨after, _, h⟩⟩
    · exact h
    · exact absurd h (hrefused _ _)
    · cases h

/-- **One dump on both sides**: it is taken in on both or fails on both, unless the larger index
refuses it. -/
theorem partOf_ingest (now : Nat) {part whole whole' : Database} (hkeep : keep ≠ [])
    (hp : part.HasTables) (hw : whole.HasTables) (hpart : Store.PartOf keep part.store whole.store)
    {outcome : Except Failure IngestStats}
    (h : ingest (options.keeping []) now' dump whole = (outcome, whole'))
    (hother : outcome ≠ .error .database) :
    ∃ part', Store.PartOf keep part'.store whole'.store ∧
      ((∃ stats stats', ingest (options.keeping keep) now dump part = (.ok stats, part') ∧
          outcome = .ok stats') ∨
        ∃ failure, ingest (options.keeping keep) now dump part = (.error failure, part') ∧
          outcome = .error failure) := by
  cases outcome with
  | error failure =>
    have htaken := takeIn_error_of_ingest hw h fun heq => hother (heq ▸ rfl)
    rw [changing_error h]
    refine ⟨part, hpart, .inr ⟨failure, ?_, rfl⟩⟩
    exact ingest_of_takeIn_error hp (takeIn_keeping_error htaken)
  | ok stats =>
    obtain ⟨hb, lines, hlines, rfl, hplace, hroom, rfl⟩ := (ingest_ok_iff hw).mp h
    have howner (stats stats' : IngestStats) :
        (dump.recordAt now stats).owner = (dump.recordAt now' stats').owner := by
      rw [DumpFile.owner_recordAt, DumpFile.owner_recordAt]
    have hafter (stats stats' : IngestStats) := hpart.withDump (howner stats stats')
      (Dump.accepted options.maxObjectLength (options.keeping []).filter lines)
    rw [← Dump.accepted_keeping hkeep] at hafter
    refine ⟨_, hafter _ _, .inl ⟨_, _, (ingest_ok_iff hp).mpr ⟨hb, lines, hlines, rfl, ?_, ?_, rfl⟩,
      rfl⟩⟩
    · rw [Store.hasPlaceFor_iff_owners] at hplace ⊢
      rw [hpart.owners]
      exact hplace
    · exact Nat.le_trans (hafter _ _).rows.length_le hroom

/-- **Dump by dump, the smaller index stays the part of the larger one that is kept.** -/
theorem partOf_ingestEach (now : Nat) {part whole : Database} (hkeep : keep ≠ [])
    (hp : part.HasTables) (hw : whole.HasTables) (hpart : Store.PartOf keep part.store whole.store)
    {dumps : List DumpFile}
    (hother : ∀ failed ∈ (ingestEach (options.keeping []) now' dumps whole).1,
      failed.2 ≠ .database) :
    (ingestEach (options.keeping keep) now dumps part).1 =
        (ingestEach (options.keeping []) now' dumps whole).1 ∧
      Store.PartOf keep (ingestEach (options.keeping keep) now dumps part).2.store
        (ingestEach (options.keeping []) now' dumps whole).2.store := by
  induction dumps generalizing part whole now now' with
  | nil => exact ⟨rfl, hpart⟩
  | cons dump rest ih =>
    rcases h : ingest (options.keeping []) now' dump whole with ⟨outcome, whole'⟩
    have hw' := hw.ingest h
    unfold ingestEach at hother ⊢
    rw [h] at hother ⊢
    cases outcome with
    | ok stats =>
      obtain ⟨part', hpart', ⟨_, _, hrun, _⟩ | ⟨failure, _, heq⟩⟩ :=
        partOf_ingest now hkeep hp hw hpart h (by simp)
      · rw [hrun]
        exact ih (now + 1) (hp.ingest hrun) hw' hpart' hother
      · cases heq
    | error failure =>
      have hfirst : failure ≠ .database := hother (dump, failure) List.mem_cons_self
      obtain ⟨part', hpart', ⟨_, _, _, heq⟩ | ⟨_, hrun, heq⟩⟩ :=
        partOf_ingest now hkeep hp hw hpart h (by simpa using hfirst)
      · cases heq
      · cases heq
        rw [hrun]
        obtain ⟨hfailed, hrest⟩ := ih (now + 1) (hp.ingest hrun) hw' hpart' fun failed hf =>
          hother failed (List.mem_cons_of_mem _ hf)
        exact ⟨congrArg (List.cons (dump, failure)) hfailed, hrest⟩

/-- **A list of predicates does not change the answers.**  Dumps are taken into an index twice, once
with a list that names every field the engine asks for and once without any list.  As long as the
larger index refuses none of them, the same dumps fail for the same reasons, and every question, in
every language, has the same results or the same failure on both indexes, and the same answer in
words. -/
theorem answers_of_keeping {engine : Engine} {keep : List String} (hkeep : engine.fields ⊆ keep)
    (options : IngestOptions) (now now' : Nat) (dumps : List DumpFile) {d : Database}
    (ht : d.HasTables)
    (hother : ∀ failed ∈ (ingestEach (options.keeping []) now' dumps d).1,
      failed.2 ≠ .database) :
    (ingestEach (options.keeping keep) now dumps d).1 =
        (ingestEach (options.keeping []) now' dumps d).1 ∧
      ∀ language question,
        (engine.queryIn language question).run
            (ingestEach (options.keeping keep) now dumps d).2.index =
          (engine.queryIn language question).run
            (ingestEach (options.keeping []) now' dumps d).2.index ∧
        (engine.answerIn language question).run
            (ingestEach (options.keeping keep) now dumps d).2.index =
          (engine.answerIn language question).run
            (ingestEach (options.keeping []) now' dumps d).2.index := by
  have hlabel : Field.label ∈ keep := hkeep (by simp [Engine.fields])
  have htype : Field.type ∈ keep := hkeep (by simp [Engine.fields])
  obtain ⟨hfailed, hpart⟩ :=
    partOf_ingestEach now (List.ne_nil_of_mem hlabel) ht ht (.refl keep d.store) hother
  have hagree := hpart.agreeOn hlabel htype
  rw [← (ht.ingestEach _ now dumps).index, ← (ht.ingestEach _ now' dumps).index] at hagree
  exact ⟨hfailed, fun language question =>
    ⟨(Engine.asksOnly_queryIn hkeep language question).run_eq hagree,
      (Engine.asksOnly_answerIn hkeep language question).run_eq hagree⟩⟩

/-- A dump with a line that no question asks for. -/
def namedJaws : DumpFile :=
  ⟨"a.nt", "a.nt", Text.octets "m.1 label Jaws @en\nm.1 type film.film\nm.1 name Jaws\n"⟩

theorem answers_of_keeping_jaws :
    (ingestEach (({} : IngestOptions).keeping ({} : Engine).fields) 1 [namedJaws]
        Migration.fresh).2.store.rows.length = 2 ∧
      (ingestEach (({} : IngestOptions).keeping []) 2 [namedJaws]
        Migration.fresh).2.store.rows.length = 3 ∧
      (({} : Engine).answerIn .english "What is Jaws").run
        (ingestEach (({} : IngestOptions).keeping ({} : Engine).fields) 1 [namedJaws]
          Migration.fresh).2.index = .ok "m.1: film film" := by
  have hall :
      (ingestEach (({} : IngestOptions).keeping []) 2 [namedJaws] Migration.fresh).1 = [] := by
    decide +kernel
  obtain ⟨_, hsame⟩ := answers_of_keeping (List.Subset.refl ({} : Engine).fields) {} 1 2
    [namedJaws] Migration.fresh_hasTables (by rw [hall]; simp)
  refine ⟨by decide +kernel, by decide +kernel, ?_⟩
  rw [(hsame .english "What is Jaws").2]
  decide +kernel

end Database

end GraphAnswers
