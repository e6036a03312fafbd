import GraphAnswers.Proofs.Bookkeeping
import GraphAnswers.Proofs.IngestProgram
import GraphAnswers.Proofs.NewIndex
/-!
# Taking in only what has changed

A run of the ingest program takes in the dumps whose digests are not those on record, and no others.
However the directory has changed from run to run, the index is then what taking in everything would
have made of it (`Program.Ingest.refresh_converges`): the invariant is that an index keeps its dumps
(`Store.Keeps`), and a run preserves it whichever dumps fail (`Database.refreshed_ingestEach`).
-/
namespace GraphAnswers

/-! ### Taking chosen dumps in -/

/-- **What is left of a store when chosen dumps have been taken in**, but for those that failed. -/
structure Store.Refreshed (before after : Store) (options : IngestOptions) (known : DumpFile → Prop)
    (chosen failed : List DumpFile) : Prop where
  keeps : after.Keeps options known
  failed_chosen : failed ⊆ chosen
  shows : ∀ dump ∈ chosen, dump ∉ failed → after.Shows options dump
  same : ∀ dump, known dump → (∀ other ∈ chosen, other.path = dump.path → other ∈ failed) →
    after.only dump.path = before.only dump.path
  elsewhere : ∀ dumps, chosen ⊆ dumps → after.without dumps = before.without dumps
  /-- Where there is room for all, no dump fails that can be read. -/
  unreadable : before.rows.length + (chosen.map fun dump => dump.rowCount options).sum ≤ maxRows →
    ∀ dump ∈ failed, ¬dump.IsReadable options

section Refreshing

variable {before after : Store} {options : IngestOptions} {known : DumpFile → Prop}
  {dump : DumpFile} {rest failed : List DumpFile}

/-- A dump that fails leaves everything to the others. -/
theorem Store.Refreshed.fails (h : before.Refreshed after options known rest failed)
    (hother : ∀ other ∈ rest, other.path ≠ dump.path)
    (hcause : before.rows.length + dump.rowCount options ≤ maxRows → ¬dump.IsReadable options) :
    before.Refreshed after options known (dump :: rest) (dump :: failed) := by
  refine
    { keeps := h.keeps
      failed_chosen := List.cons_subset_cons _ h.failed_chosen
      shows := fun other hmem hfailed => ?_
      same := fun other hknown hall => ?_
      elsewhere := fun dumps hsub =>
        h.elsewhere dumps fun other hmem => hsub (List.mem_cons_of_mem _ hmem)
      unreadable := fun hroom other hmem => ?_ }
  · rw [List.mem_cons, not_or] at hfailed
    exact h.shows other ((List.mem_cons.mp hmem).resolve_left hfailed.1) hfailed.2
  · refine h.same other hknown fun third hmem hpath => ?_
    rcases List.mem_cons.mp (hall third (List.mem_cons_of_mem _ hmem) hpath) with rfl | hfailed
    · exact absurd rfl (hother _ hmem)
    · exact hfailed
  · rw [List.map_cons, List.sum_cons] at hroom
    rcases List.mem_cons.mp hmem with rfl | hmem
    · exact hcause (by omega)
    · exact h.unreadable (by omega) other hmem

/-- A dump that is taken in stays as it is while the others are taken in. -/
theorem Store.Refreshed.succeeds (hk : Dump.Distinguishable known)
    (hkeeps : before.Keeps options known) (hdump : known dump) {now : Nat} {lines : List String}
    (hb : options.batchSize ≤ maxBatch) (hlines : dump.readLines = .ok lines)
    (h : (before.withDump
        (dump.recordAt now (Dump.statsOf options.maxObjectLength options.filter lines))
        (Dump.accepted options.maxObjectLength options.filter lines)).Refreshed after options known
      rest failed)
    (hother : ∀ other ∈ rest, other.path ≠ dump.path) :
    before.Refreshed after options known (dump :: rest) failed := by
  refine
    { keeps := h.keeps
      failed_chosen := fun other hmem => List.mem_cons_of_mem _ (h.failed_chosen hmem)
      shows := fun other hmem hfailed => ?_
      same := fun other hknown hall => ?_
      elsewhere := fun dumps hsub => ?_
      unreadable := fun hroom => h.unreadable ?_ }
  · rcases List.mem_cons.mp hmem with rfl | hmem
    · refine (hkeeps.shows_withDump hb hlines).congr (h.same _ hdump fun third hmem hpath => ?_)
      exact absurd hpath (hother third hmem)
    · exact h.shows other hmem hfailed
  · rw [h.same other hknown fun third hmem hpath =>
      hall third (List.mem_cons_of_mem _ hmem) hpath]
    refine hkeeps.only_withDump_of_ne hk _ hdump hknown fun hpath => ?_
    -- the dump did not fail, as those that did are further on
    have hfailed := h.failed_chosen (hall dump List.mem_cons_self hpath.symm)
    exact hother dump hfailed rfl
  · rw [h.elsewhere dumps fun other hmem => hsub (List.mem_cons_of_mem _ hmem)]
    exact hkeeps.without_withDump hk _ hdump (hsub List.mem_cons_self)
  · rw [List.map_cons, List.sum_cons] at hroom
    have hlength := length_rows_withDump_le before
      (dump.recordAt now (Dump.statsOf options.maxObjectLength options.filter lines))
      (Dump.accepted options.maxObjectLength options.filter lines)
    have hcount : dump.rowCount options =
        (Dump.accepted options.maxObjectLength options.filter lines).eraseDups.length := by
      unfold DumpFile.rowCount
      rw [hlines]
    omega

/-- **The loop**: each dump is taken in or leaves the index as it was, and no other dump is
touched. -/
theorem Database.refreshed_ingestEach (hk : Dump.Distinguishable known) {d : Database}
    (ht : d.HasTables) (h : d.store.Keeps options known) (now : Nat) {chosen : List DumpFile}
    (hknown : ∀ dump ∈ chosen, known dump) (hdistinct : (chosen.map DumpFile.path).Nodup) :
    d.store.Refreshed (ingestEach options now chosen d).2.store options known chosen
      ((ingestEach options now chosen d).1.map Prod.fst) := by
  induction chosen generalizing d now with
  | nil =>
    refine ⟨h, List.Subset.refl _, fun dump hdump => ?_, fun _ _ _ => rfl, fun _ _ => rfl,
      fun _ dump hdump => ?_⟩ <;> cases hdump
  | cons dump rest ih =>
    have hdump := hknown dump List.mem_cons_self
    have hknown' : ∀ other ∈ rest, known other := fun other hmem =>
      hknown other (List.mem_cons_of_mem _ hmem)
    rw [List.map_cons, List.nodup_cons] at hdistinct
    have hother : ∀ other ∈ rest, other.path ≠ dump.path := fun other hmem heq =>
      hdistinct.1 (List.mem_map.mpr ⟨other, hmem, heq⟩)
    rcases hd : ingest options now dump d with ⟨outcome, d'⟩
    unfold ingestEach
    rw [hd]
    cases outcome with
    | error failure =>
      obtain rfl := changing_error hd
      -- with room for a dump that can be read, there would have been no failure
      refine (ih ht h (now + 1) hknown' hdistinct.2).fails hother fun hroom hreadable => ?_
      obtain ⟨stats, d', hok⟩ :=
        ingest_of_isReadable ht now (h.hasPlaceFor dump now) hreadable hroom
      rw [hok] at hd
      cases hd
    | ok stats =>
      have ht' := ht.ingest hd
      obtain ⟨hb, lines, hlines, rfl, _, hroom, rfl⟩ := (ingest_ok_iff ht).mp hd
      exact .succeeds hk h hdump hb hlines
        (ih ht' (h.withDump hk hdump hb hlines hroom) (now + 1) hknown' hdistinct.2) hother

end Refreshing

/-! ### A whole run -/

/-- **What a run leaves of a store** when it has found dumps, of which some failed. -/
structure Store.Converged (before after : Store) (options : IngestOptions)
    (dumps failed : List DumpFile) (removesVanished : Bool) : Prop where
  failed_found : failed ⊆ dumps
  /-- A dump that did not fail is as if it had been taken in from scratch. -/
  current : ∀ dump ∈ dumps, dump ∉ failed → after.Current options dump
  /-- A dump that failed has the rows and the record that it had, and will be tried again. -/
  kept : ∀ dump ∈ failed, after.only dump.path = before.only dump.path ∧
    dump ∉ (Dump.classify dumps after.hashes).unchanged
  /-- Where there is room for all rows, no dump fails that can be read. -/
  unreadable : before.rows.length + (dumps.map fun dump => dump.rowCount options).sum ≤ maxRows →
    ∀ dump ∈ failed, ¬dump.IsReadable options
  /-- Nothing remains of what has vanished. -/
  removed : removesVanished = true → after.without dumps = .empty
  untouched : removesVanished = false → after.without dumps = before.without dumps

section Updating

variable {before after final : Store} {options : IngestOptions} {known : DumpFile → Prop}
  {dumps failed : List DumpFile} {dump : DumpFile}

section Pending

variable (hr : before.Refreshed after options known
  (Dump.classify dumps before.hashes).pending failed)
  (hknown : ∀ dump ∈ dumps, known dump) (hdistinct : (dumps.map DumpFile.path).Nodup)

include hr hknown hdistinct

/-- A dump that is not pending was shown before, and is not touched. -/
theorem Store.Refreshed.shows_found (hk : Dump.Distinguishable known)
    (hfound : ∀ dump, known dump → dump.IsFound) (hkeeps : before.Keeps options known)
    (hdump : dump ∈ dumps) (hfailed : dump ∉ failed) : after.Shows options dump := by
  by_cases hhash : before.hash? dump.path = some (contentHash dump.octets)
  · refine (hkeeps.shows_of_hash? hk hfound (hknown dump hdump) hhash).congr
      (hr.same dump (hknown dump hdump) fun other hother hpath => ?_)
    obtain rfl := Dump.eq_of_path hdistinct (Dump.pending_subset _ _ hother) hdump hpath
    exact absurd hhash (Dump.mem_pending.mp hother).2
  · exact hr.shows dump (Dump.mem_pending.mpr ⟨hdump, hhash⟩) hfailed

theorem Store.Refreshed.only_failed (hfailed : dump ∈ failed) :
    after.only dump.path = before.only dump.path := by
  have hdump := Dump.pending_subset _ _ (hr.failed_chosen hfailed)
  refine hr.same dump (hknown dump hdump) fun other hother hpath => ?_
  rwa [Dump.eq_of_path hdistinct (Dump.pending_subset _ _ hother) hdump hpath]

/-- **Where the pending dumps have been taken in**, all is as it should be, if then what was found is
left alone, and what has vanished is removed or left alone. -/
theorem Store.Refreshed.converged (hk : Dump.Distinguishable known)
    (hfound : ∀ dump, known dump → dump.IsFound) (hkeeps : before.Keeps options known)
    {removesVanished : Bool}
    (honly : ∀ dump ∈ dumps, final.only dump.path = after.only dump.path)
    (hremoved : removesVanished = true → final.without dumps = .empty)
    (huntouched : removesVanished = false → final.without dumps = after.without dumps) :
    before.Converged final options dumps failed removesVanished where
  failed_found _ hfailed := Dump.pending_subset _ _ (hr.failed_chosen hfailed)
  current dump hdump hfailed :=
    ((hr.shows_found hknown hdistinct hk hfound hkeeps hdump hfailed).congr
      (honly dump hdump)).current
  kept dump hfailed := by
    have hpending := hr.failed_chosen hfailed
    have hsame : final.only dump.path = before.only dump.path := by
      rw [honly dump (Dump.pending_subset _ _ hpending),
        hr.only_failed hknown hdistinct hfailed]
    refine ⟨hsame, fun hunchanged => (Dump.mem_pending.mp hpending).2 ?_⟩
    rw [← hash?_congr hsame]
    exact (Dump.mem_unchanged.mp hunchanged).2
  unreadable hroom := by
    have hle := Dump.sum_pending_le hdistinct before fun dump => dump.rowCount options
    exact hr.unreadable (by omega)
  removed := hremoved
  untouched hleft := by
    rw [huntouched hleft, hr.elsewhere dumps (Dump.pending_subset _ _)]

end Pending

theorem Store.Keeps.pruned (hk : Dump.Distinguishable known) {d : Database}
    (h : d.store.Keeps options known) (dumps : List DumpFile) :
    (d.pruned dumps).store.Keeps options known ∧
      (∀ dump ∈ dumps, known dump →
        (d.pruned dumps).store.only dump.path = d.store.only dump.path) ∧
      (d.pruned dumps).store.without dumps = .empty :=
  ⟨h.deleteDumps _, fun _ hdump hknown => h.only_deleteDumps (h.not_vanished hk hknown hdump),
    h.without_deleteDumps⟩

/-- The loop over the pending dumps. -/
theorem Database.refreshed_pending (hk : Dump.Distinguishable known) {d : Database}
    (ht : d.HasTables) (h : d.store.Keeps options known) (now : Nat)
    (hknown : ∀ dump ∈ dumps, known dump) (hdistinct : (dumps.map DumpFile.path).Nodup) :
    d.store.Refreshed
      (ingestEach options now (Dump.classify dumps d.store.hashes).pending d).2.store options known
      (Dump.classify dumps d.store.hashes).pending
      ((ingestEach options now (Dump.classify dumps d.store.hashes).pending d).1.map Prod.fst) :=
  refreshed_ingestEach hk ht h now
    (fun dump hdump => hknown dump (Dump.pending_subset dumps d.store hdump))
    (Dump.nodup_pending hdistinct)

/-- **What a run makes of an index.** -/
theorem Database.converged_updated (hk : Dump.Distinguishable known)
    (hfound : ∀ dump, known dump → dump.IsFound) {d : Database} (ht : d.HasTables)
    (h : d.store.Keeps options known) (now : Nat) (removesVanished : Bool)
    (hknown : ∀ dump ∈ dumps, known dump) (hdistinct : (dumps.map DumpFile.path).Nodup) :
    (d.updated options now (Dump.classify dumps d.store.hashes).pending dumps
        removesVanished).store.Keeps options known ∧
      d.store.Converged
        (d.updated options now (Dump.classify dumps d.store.hashes).pending dumps
          removesVanished).store
        options dumps
        ((ingestEach options now (Dump.classify dumps d.store.hashes).pending d).1.map Prod.fst)
        removesVanished := by
  have hr := refreshed_pending hk ht h now hknown hdistinct
  unfold updated
  cases removesVanished with
  | false =>
    exact ⟨hr.keeps, hr.converged hknown hdistinct hk hfound h (fun _ _ => rfl)
      (fun h => by cases h) fun _ => rfl⟩
  | true =>
    obtain ⟨hkeeps, honly, hwithout⟩ := hr.keeps.pruned hk dumps
    exact ⟨hkeeps, hr.converged hknown hdistinct hk hfound h
      (fun dump hdump => honly dump hdump (hknown dump hdump)) (fun _ => hwithout)
      fun h => by cases h⟩

/-- Where no dump is taken in and none has vanished, a run makes no difference. -/
theorem Database.updated_nil {d : Database} (now : Nat) {removesVanished : Bool}
    (hremoved : removesVanished = true → d.store.without dumps = .empty) :
    d.updated options now [] dumps removesVanished = d := by
  unfold updated
  cases removesVanished with
  | false => rfl
  | true =>
    have hnone : (d.store.vanished (dumps.map DumpFile.path)).toList = [] := by
      refine List.eq_nil_iff_forall_not_mem.mpr fun path hpath => ?_
      obtain ⟨⟨e, he, rfl⟩, hgone⟩ := Store.mem_vanished.mp hpath
      have hmem : e ∈ (d.store.without dumps).dumps :=
        List.mem_filter.mpr ⟨he, decide_eq_true hgone⟩
      rw [hremoved rfl] at hmem
      cases hmem
    show d.pruned dumps = d
    unfold pruned
    rw [hnone]
    rfl

end Updating

namespace Program.Ingest

/-! ### Runs over a directory -/

/-- **What a run finds**: an index that can be changed, and a directory with dumps in it.  Dumps are
taken in as they always are, and those that are as on record are passed over. -/
structure Finds (options : IngestOptions) (used : DumpFile → Prop) (path : String) (t : FileTree)
    (settings : Settings) (request : Request) (d : Database) (dumps : List DumpFile) : Prop where
  holds : ∃ o, t.Holds path o d
  root : t.isDirectory request.dumpPath = true
  found : Dump.discover t request.dumpPath = .ok dumps
  some_found : dumps ≠ []
  distinct : (dumps.map DumpFile.path).Nodup
  all_used : ∀ dump ∈ dumps, used dump
  as_always : optionsOf settings request.subjects = options
  unforced : request.isForced = false

/-- The indexes that runs, one after another, make of a new one.  Between two runs anything may
happen to the files, as long as the index is left alone. -/
inductive Reached (options : IngestOptions) (used : DumpFile → Prop) (path : String) :
    Database → Prop
  | migrated {d : Database} (made : Migration.setUp .empty = (.ok (), d)) :
      Reached options used path d
  | run {d d' : Database} {call : Invocation} {settings : Settings} {request : Request}
      {s s' : Session} {dumps : List DumpFile} {outcome : Except Ending Unit}
      (before : Reached options used path d)
      (finds : Finds options used path s.files settings request d dumps)
      (performed : perform (refresh call settings request path) s = (outcome, s'))
      (left : s'.files.database? path = some d') : Reached options used path d'

section Runs

variable {options : IngestOptions} {used : DumpFile → Prop} {path : String} {t : FileTree}
  {settings : Settings} {request : Request} {d : Database} {dumps : List DumpFile}

/-- The dumps that are used and found. -/
def Known (used : DumpFile → Prop) (dump : DumpFile) : Prop := used dump ∧ dump.IsFound

theorem distinguishable_known (hu : Dump.Distinguishable used) :
    Dump.Distinguishable (Known used) where
  paths a b ha hb := hu.paths a b ha.1 hb.1
  contents a b ha hb := hu.contents a b ha.1 hb.1

theorem Finds.known (h : Finds options used path t settings request d dumps) :
    ∀ dump ∈ dumps, Known used dump := fun dump hdump =>
  ⟨h.all_used dump hdump, Dump.isFound_of_discover h.root h.found hdump⟩

/-- **A run comes to its end**, whatever dumps fail, and what it leaves is told. -/
theorem Finds.does_refresh (h : Finds options used path t settings request d dumps)
    (hu : Dump.Distinguishable used) (ht : d.HasTables)
    (hkeeps : d.store.Keeps options (Known used)) (call : Invocation) :
    ∃ (o : FileTree.Opening) (after : Database) (failed : List (DumpFile × Failure)),
      t.Holds path o d ∧
      Does (refresh call settings request path) t () (t.set o.place (.file (.index after)))
        (failed.map report) ∧
      after.HasTables ∧ after.store.Keeps options (Known used) ∧
      d.store.Converged after.store options dumps (failed.map Prod.fst)
        request.removesVanished := by
  obtain ⟨o, hholds⟩ := h.holds
  have hk := distinguishable_known hu
  have hchosen : (Dump.classify dumps d.store.hashes).pending =
      (Dump.classify dumps d.store.hashes).new ++
        (Dump.classify dumps d.store.hashes).modified := rfl
  obtain ⟨hkeeps', hconverged⟩ := Database.converged_updated hk (fun _ hdump => hdump.2) ht hkeeps
    (call.now + 1) request.removesVanished h.known h.distinct
  refine ⟨o, _, _, hholds, ?_, ?_, hkeeps', hconverged⟩
  · refine Ingest.does_refresh h.found h.some_found
      (does_update call hholds ht h.root h.unforced hchosen h.as_always.symm ?_)
    have hrefreshed := Database.refreshed_pending hk ht hkeeps (call.now + 1) h.known h.distinct
    exact (hrefreshed.keeps.pruned hk _).1.room
  · have ht' := ht.ingestEach options (call.now + 1) (Dump.classify dumps d.store.hashes).pending
    unfold Database.updated
    split
    · exact ht'.withStore _
    · exact ht'

/-- **The invariant**: an index has its tables, and keeps its dumps. -/
theorem Reached.keeps (h : Reached options used path d) (hu : Dump.Distinguishable used) :
    d.HasTables ∧ d.store.Keeps options (Known used) := by
  induction h with
  | migrated made =>
    rw [Migration.setUp_empty] at made
    cases made
    exact ⟨Migration.fresh_hasTables, Store.keeps_empty _ _⟩
  | run _ finds performed left ih =>
    obtain ⟨ht, hkeeps⟩ := ih
    obtain ⟨o, after, failed, hholds, hdoes, ht', hkeeps', _⟩ := finds.does_refresh hu ht hkeeps _
    obtain ⟨s'', hperform, hfiles, _⟩ := hdoes _ rfl
    rw [hperform] at performed
    cases performed
    rw [hfiles, FileTree.database?_set hholds.opened] at left
    cases left
    exact ⟨ht', hkeeps'⟩

/-- **The same run again**, after one in which no dump failed. -/
theorem Finds.again (h : Finds options used path t settings request d dumps)
    {o : FileTree.Opening} (hholds : t.Holds path o d) (ht : d.HasTables) {after : Database}
    (ht' : after.HasTables) (hroom : (after.pruned dumps).store.rows.length ≤ Store.maxRows)
    (hconverged : d.store.Converged after.store options dumps [] request.removesVanished)
    {t' : FileTree} (hleft : t' = t.set o.place (.file (.index after))) (again : Invocation) :
    Dump.discover t' request.dumpPath = .ok dumps ∧
      Dump.classify dumps after.store.hashes = { new := [], modified := [], unchanged := dumps } ∧
      Does (refresh again settings request path) t' () t' [] := by
  have hself : t'.Holds path o after := by
    rw [hleft]
    exact hholds.set after
  have hfound : Dump.discover t' request.dumpPath = .ok dumps := by
    rw [hleft, Dump.discover_set hholds ht.ne_empty h.root, h.found]
  have hroot : t'.isDirectory request.dumpPath = true := by
    rw [hleft, (FileTree.sameDirectories_set hholds.hasPlace _).isDirectory, h.root]
  have hclassify : Dump.classify dumps after.store.hashes =
      { new := [], modified := [], unchanged := dumps } :=
    Dump.classify_eq_of_current fun dump hdump =>
      (hconverged.current dump hdump List.not_mem_nil).hash
  have hchosen : [] = (Dump.classify dumps after.store.hashes).new ++
      (Dump.classify dumps after.store.hashes).modified := by
    rw [hclassify]
    rfl
  have hdoes := Ingest.does_refresh hfound h.some_found
    (does_update again hself ht' hroot h.unforced hchosen h.as_always.symm hroom)
  rw [Database.updated_nil _ hconverged.removed, hself.set_self ht'.ne_empty] at hdoes
  exact ⟨hfound, hclassify, hdoes⟩

/-- **Taking in only what has changed comes to taking in everything.**  After any runs over
whatever was in the directory, a run comes to its end; it reports the dumps that failed, and
leaves the index as `Store.Converged` says.  If none failed, the same run again finds all dumps
unchanged, and changes nothing. -/
theorem refresh_converges (hu : Dump.Distinguishable used) (hmade : Reached options used path d)
    {s : Session} (hfinds : Finds options used path s.files settings request d dumps)
    (call : Invocation) :
    ∃ (s' : Session) (after : Database) (failed : List (DumpFile × Failure)),
      perform (refresh call settings request path) s = (.ok (), s') ∧
      s'.errors = s.errors ++ failed.map report ∧
      s'.files.database? path = some after ∧
      d.store.Converged after.store options dumps (failed.map Prod.fst) request.removesVanished ∧
      (failed = [] → ∀ (again : Invocation) (next : Session), next.files = s'.files →
        Dump.discover next.files request.dumpPath = .ok dumps ∧
        Dump.classify dumps after.store.hashes = { new := [], modified := [], unchanged := dumps } ∧
        ∃ last, perform (refresh again settings request path) next = (.ok (), last) ∧
          last.files = next.files ∧ last.errors = next.errors) := by
  obtain ⟨ht, hkeeps⟩ := hmade.keeps hu
  obtain ⟨o, after, failed, hholds, hdoes, ht', hkeeps', hconverged⟩ :=
    hfinds.does_refresh hu ht hkeeps call
  obtain ⟨s', hperform, hfiles, herrors⟩ := hdoes s rfl
  refine ⟨s', after, failed, hperform, herrors, ?_, hconverged, ?_⟩
  · rw [hfiles]
    exact FileTree.database?_set hholds.opened after
  rintro rfl again next hnext
  have hroom := (hkeeps'.pruned (distinguishable_known hu) dumps).1.room
  obtain ⟨hfound, hclassify, hdoes'⟩ :=
    hfinds.again hholds ht ht' hroom hconverged (hnext.trans hfiles) again
  obtain ⟨last, hperform', hfiles', herrors'⟩ := hdoes' next rfl
  exact ⟨hfound, hclassify, last, hperform', hfiles', herrors'.trans (List.append_nil _)⟩

end Runs

/-! ### A dump that changes, and one that goes -/

/-- A directory of dumps. -/
def directoryOf (dumps : List DumpFile) : FileTree :=
  dumps.foldl (fun t dump => t.set [dump.path] (.file (.octets dump.octets))) FileTree.empty

/-- The directory with an index in it. -/
def besideIndex (dumps : List DumpFile) (d : Database) : FileTree :=
  (directoryOf dumps).set ["f.db"] (.file (.index d))

/-- Two dumps. -/
def firstDumps : List DumpFile := [
  ⟨"a.nt", "a.nt", FileTree.jaws⟩,
  ⟨"b.nt", "b.nt", Text.octets "m.2 label Alien @en\n"⟩]

/-- What has become of them: one has changed, and the other is gone. -/
def laterDumps : List DumpFile := [⟨"a.nt", "a.nt", Text.octets "m.1 label Jaws @en\n"⟩]

/-- What is asked of either run. -/
def cleaningUp : Request := { dumpPath := ".", removesVanished := true }

/-- A run over dumps beside an index. -/
def runBeside (call : Invocation) (dumps : List DumpFile) (d : Database) :
    Except Ending Unit × Session :=
  perform (refresh call { indexRoot := "." } cleaningUp "./f.db") { files := besideIndex dumps d }

/-- The index after a run over the two. -/
def afterFirst : Database :=
  ((runBeside {} firstDumps Migration.fresh).2.files.database? "./f.db").getD .empty

/-- The digests tell the paths and contents of these dumps apart. -/
theorem distinguishable_dumps : Dump.Distinguishable (· ∈ firstDumps ++ laterDumps) := by
  have hall : ∀ a ∈ firstDumps ++ laterDumps, ∀ b ∈ firstDumps ++ laterDumps,
      (dumpId a.path = dumpId b.path → a.path = b.path) ∧
      (a.path = b.path → contentHash a.octets = contentHash b.octets → a.octets = b.octets) := by
    decide +kernel
  exact ⟨fun a b ha hb => (hall a ha b hb).1, fun a b ha hb => (hall a ha b hb).2⟩

theorem finds_besideIndex {dumps : List DumpFile} {d : Database}
    (hplace : (directoryOf dumps).place? "./f.db" = some (["f.db"], none))
    (hroot : (besideIndex dumps d).isDirectory "." = true)
    (hfound : Dump.discover (besideIndex dumps d) "." = .ok dumps) (hsome : dumps ≠ [])
    (hdistinct : (dumps.map DumpFile.path).Nodup) (hused : dumps ⊆ firstDumps ++ laterDumps) :
    Finds (optionsOf { indexRoot := "." } []) (· ∈ firstDumps ++ laterDumps) "./f.db"
      (besideIndex dumps d) { indexRoot := "." } cleaningUp d dumps where
  holds := ⟨_, FileTree.holds_set (FileTree.opening?_of_place hplace) rfl (by decide) d⟩
  root := hroot
  found := hfound
  some_found := hsome
  distinct := hdistinct
  all_used _ hdump := hused hdump
  as_always := rfl
  unforced := rfl

/-- The index of the two dumps is made by a run. -/
theorem reached_afterFirst : Reached (optionsOf { indexRoot := "." } [])
    (· ∈ firstDumps ++ laterDumps) "./f.db" afterFirst := by
  have hfinds : Finds _ _ "./f.db" (besideIndex firstDumps Migration.fresh) _ cleaningUp
      Migration.fresh firstDumps :=
    finds_besideIndex (by decide) (by decide +kernel) (by decide +kernel) (List.cons_ne_nil _ _)
      (by decide) (List.subset_append_left _ _)
  have hleft : (runBeside {} firstDumps Migration.fresh).2.files.database? "./f.db" =
      some afterFirst := by
    decide +kernel
  exact .run (s := { files := besideIndex firstDumps Migration.fresh })
    (.migrated Migration.setUp_empty) hfinds rfl hleft

/-- A second run takes the changed dump in again, and removes what has gone. -/
theorem refresh_converges_jaws :
    (Dump.classify laterDumps afterFirst.store.hashes).modified = laterDumps ∧
    (afterFirst.store.vanished (laterDumps.map DumpFile.path)).toList = ["b.nt"] ∧
    ∃ s' after, runBeside { now := 4 } laterDumps afterFirst = (.ok (), s') ∧
      s'.files.database? "./f.db" = some after ∧
      (∀ dump ∈ laterDumps, after.store.Current (optionsOf { indexRoot := "." } []) dump) ∧
      after.store.without laterDumps = .empty ∧
      ∃ last, perform (refresh { now := 8 } { indexRoot := "." } cleaningUp "./f.db") s' =
        (.ok (), last) ∧ last.files = s'.files := by
  have hfound : (Dump.classify laterDumps afterFirst.store.hashes).modified = laterDumps ∧
      (afterFirst.store.vanished (laterDumps.map DumpFile.path)).toList = ["b.nt"] ∧
      (runBeside { now := 4 } laterDumps afterFirst).2.errors = [] := by
    decide +kernel
  obtain ⟨hmodified, hvanished, hquiet⟩ := hfound
  have hfinds : Finds _ _ "./f.db" (besideIndex laterDumps afterFirst) _ cleaningUp afterFirst
      laterDumps :=
    finds_besideIndex (by decide) (by decide +kernel) (by decide +kernel) (List.cons_ne_nil _ _)
      (by decide) (List.subset_append_right _ _)
  obtain ⟨s', after, failed, hperform, herrors, hafter, hconverged, hagain⟩ :=
    refresh_converges distinguishable_dumps reached_afterFirst
      (s := { files := besideIndex laterDumps afterFirst }) hfinds { now := 4 }
  have hrun : runBeside { now := 4 } laterDumps afterFirst = (.ok (), s') := hperform
  rw [hrun] at hquiet
  obtain rfl : failed = [] := List.map_eq_nil_iff.mp (herrors.symm.trans hquiet)
  obtain ⟨_, _, last, hlast, hfiles, _⟩ := hagain rfl { now := 8 } s' rfl
  exact ⟨hmodified, hvanished, s', after, hrun, hafter,
    fun dump hdump => hconverged.current dump hdump List.not_mem_nil, hconverged.removed rfl,
    last, hlast, hfiles⟩

end Program.Ingest

end GraphAnswers
