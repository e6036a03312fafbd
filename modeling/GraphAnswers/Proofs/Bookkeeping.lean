import GraphAnswers.Proofs.Discovery
import GraphAnswers.Proofs.Ingest
import GraphAnswers.Proofs.StoreState
import Mathlib.Algebra.Order.BigOperators.Group.List
/-!
# What a store holds of each dump

What a store holds of one dump (`Store.only`) are its rows and its record.  In a store that has
come of taking dumps in and of removing them, that is what the dump would have left in an empty
store (`Store.Keeps`).  So where the recorded digest is that of the present content, the rows are
those of the present content as well (`Store.Keeps.shows_of_hash?`), and the dump need not be
taken in again.
-/
namespace GraphAnswers

/-- Whether the digests tell the paths of dumps apart, and the contents that a path has had. -/
structure Dump.Distinguishable (known : DumpFile → Prop) : Prop where
  paths : ∀ a b, known a → known b → dumpId a.path = dumpId b.path → a.path = b.path
  contents : ∀ a b, known a → known b → a.path = b.path →
    contentHash a.octets = contentHash b.octets → a.octets = b.octets

namespace Store

/-- What a store holds of the dump of a path. -/
def only (s : Store) (path : String) : Store where
  rows := s.rows.filter fun row => decide (row.dump = dumpId path)
  dumps := s.dumps.filter fun e => decide (e.path = path)

/-- What a store holds apart from dumps. -/
def without (s : Store) (dumps : List DumpFile) : Store where
  rows := s.rows.filter fun row => decide (row.dump ∉ dumps.map fun dump => dumpId dump.path)
  dumps := s.dumps.filter fun e => decide (e.path ∉ dumps.map DumpFile.path)

theorem eq_of {s t : Store} (hrows : s.rows = t.rows) (hdumps : s.dumps = t.dumps) : s = t := by
  cases s; cases t; cases hrows; cases hdumps; rfl

/-! ### Digests -/

theorem hash?_only (s : Store) (path : String) : (s.only path).hash? path = s.hash? path := by
  unfold hash? only
  rw [List.find?_filter]
  congr 2
  funext e
  by_cases h : e.path = path <;> simp [h]

theorem hash?_congr {s t : Store} {path : String} (h : s.only path = t.only path) :
    s.hash? path = t.hash? path := by
  rw [← hash?_only, h, hash?_only]

/-- What is recorded of a path is looked up among the digests. -/
theorem lookup_hashes (s : Store) (path : String) : s.hashes.lookup path = s.hash? path := by
  unfold hashes hash?
  induction s.dumps with
  | nil => rfl
  | cons e l ih =>
    rw [List.map_cons, List.lookup_cons]
    by_cases h : e.path = path
    · subst h
      simp
    · rw [List.find?_cons_of_neg (by simpa using h), ← ih]
      have hne : (path == e.path) = false := by simpa using Ne.symm h
      rw [hne]

/-! ### A dump in an empty store -/

section Scratch

variable {s after : Store} {options : IngestOptions} {now : Nat} {dump : DumpFile}
  {stats : IngestStats}

theorem ingest_ok_iff : s.ingest options now dump = .ok (after, stats) ↔
    options.batchSize ≤ maxBatch ∧ ∃ lines, dump.readLines = .ok lines ∧
      stats = Dump.statsOf options.maxObjectLength options.filter lines ∧
      s.HasPlaceFor (dump.recordAt now stats) ∧
      after = s.withDump (dump.recordAt now stats)
        (Dump.accepted options.maxObjectLength options.filter lines) := by
  unfold ingest
  simp only [bind_ok_iff, record_ok_iff]
  constructor
  · rintro ⟨⟨s', stats'⟩, htaken, s'', ⟨hplace, rfl⟩, heq⟩
    cases heq
    obtain ⟨hb, lines, hlines, rfl, rfl⟩ := takeIn_ok_iff.mp htaken
    exact ⟨hb, lines, hlines, rfl, hplace, rfl⟩
  · rintro ⟨hb, lines, hlines, rfl, hplace, rfl⟩
    exact ⟨_, takeIn_ok_iff.mpr ⟨hb, lines, hlines, rfl, rfl⟩, _, ⟨hplace, rfl⟩, rfl⟩

/-- **What a dump leaves in an empty store.** -/
theorem ingest_empty_ok_iff : empty.ingest options now dump = .ok (after, stats) ↔
    options.batchSize ≤ maxBatch ∧ ∃ lines, dump.readLines = .ok lines ∧
      stats = Dump.statsOf options.maxObjectLength options.filter lines ∧
      after =
        { rows :=
            (Dump.accepted options.maxObjectLength options.filter lines).eraseDups.map fun t =>
              ⟨t, dumpId dump.path⟩
          dumps := [dump.recordAt now stats] } := by
  have hfree : empty.HasPlaceFor (dump.recordAt now stats) := fun e he => by cases he
  have hempty (ts : List Triple) : empty.withDump (dump.recordAt now stats) ts =
      { rows := ts.eraseDups.map fun t => ⟨t, dumpId dump.path⟩
        dumps := [dump.recordAt now stats] } := rfl
  simp only [ingest_ok_iff, hfree, true_and, hempty]

end Scratch

/-- **A store shows a dump as it is**: what it holds of it is what the dump would have left in an
empty store. -/
def Shows (s : Store) (options : IngestOptions) (dump : DumpFile) : Prop :=
  ∃ now stats, empty.ingest options now dump = .ok (s.only dump.path, stats)

section Showing

variable {s t : Store} {options : IngestOptions} {dump : DumpFile}

theorem Shows.congr (h : s.Shows options dump) (hsame : t.only dump.path = s.only dump.path) :
    t.Shows options dump := by
  obtain ⟨now, stats, hok⟩ := h
  exact ⟨now, stats, by rw [hsame, hok]⟩

theorem Shows.hash? (h : s.Shows options dump) :
    s.hash? dump.path = some (contentHash dump.octets) := by
  obtain ⟨now, stats, hok⟩ := h
  obtain ⟨_, lines, _, _, honly⟩ := ingest_empty_ok_iff.mp hok
  rw [← hash?_only, honly]
  simp [Store.hash?, DumpFile.recordAt]

/-- Its rows are those of the lines. -/
theorem Shows.rows (h : s.Shows options dump) : ∃ lines, dump.readLines = .ok lines ∧
    (s.only dump.path).rows =
      (Dump.accepted options.maxObjectLength options.filter lines).eraseDups.map fun t =>
        ⟨t, dumpId dump.path⟩ := by
  obtain ⟨now, stats, hok⟩ := h
  obtain ⟨_, lines, hlines, _, honly⟩ := ingest_empty_ok_iff.mp hok
  exact ⟨lines, hlines, by rw [honly]⟩

/-- **A dump that is current in a store**: its rows are those that its lines give, and its digest
is that of its content, as if nothing but the dump had ever been taken in. -/
structure Current (s : Store) (options : IngestOptions) (dump : DumpFile) : Prop where
  scratch : ∃ now stats, empty.ingest options now dump = .ok (s.only dump.path, stats)
  rows : ∃ lines, dump.readLines = .ok lines ∧
    ∀ t, Row.mk t (dumpId dump.path) ∈ s.rows ↔
      ∃ line ∈ lines, Dump.scan options.maxObjectLength line = some t ∧
        options.filter.accepts t = true
  hash : s.hash? dump.path = some (contentHash dump.octets)

theorem Shows.current (h : s.Shows options dump) : s.Current options dump := by
  refine ⟨h, ?_, h.hash?⟩
  obtain ⟨lines, hlines, hrows⟩ := h.rows
  refine ⟨lines, hlines, fun t => ?_⟩
  have hmem : Row.mk t (dumpId dump.path) ∈ s.rows ↔
      Row.mk t (dumpId dump.path) ∈ (s.only dump.path).rows := by
    unfold only
    rw [List.mem_filter]
    simp
  rw [hmem, hrows, ← Dump.mem_accepted]
  simp

/-- A dump with the same path, content and lines leaves the same. -/
theorem Shows.of_eq {other : DumpFile} (h : s.Shows options dump) (hpath : other.path = dump.path)
    (hoctets : other.octets = dump.octets) (hlines : other.lines = dump.lines) :
    s.Shows options other := by
  obtain ⟨now, stats, hok⟩ := h
  refine ⟨now, stats, ?_⟩
  rw [ingest_empty_ok_iff] at hok ⊢
  unfold DumpFile.readLines DumpFile.recordAt at hok ⊢
  rw [hpath, hoctets, hlines]
  exact hok

end Showing

/-! ### Removing dumps -/

/-- Leaving one thing out, and then others, leaves all of them out. -/
theorem filter_notMem_cons {α : Type} (name : α → String) (first : String) (rest : List String)
    (l : List α) :
    (l.filter fun a => decide (name a ≠ first)).filter (fun a => decide (name a ∉ rest)) =
      l.filter fun a => decide (name a ∉ first :: rest) := by
  rw [List.filter_filter]
  refine List.filter_congr fun a _ => ?_
  by_cases h : name a = first <;> simp [h]

theorem deleteDumps_fst (s : Store) (paths : List String) : (s.deleteDumps paths).1 =
    { rows := s.rows.filter fun row => decide (row.dump ∉ paths.map dumpId)
      dumps := s.dumps.filter fun e => decide (e.id ∉ paths.map dumpId) } := by
  induction paths generalizing s with
  | nil => simp [deleteDumps]
  | cons path rest ih =>
    have hstep : (s.deleteDumps (path :: rest)).1 = ((s.deleteDump path).1.deleteDumps rest).1 :=
      rfl
    rw [hstep, ih]
    exact eq_of (filter_notMem_cons Row.dump (dumpId path) (rest.map dumpId) s.rows)
      (filter_notMem_cons DumpRecord.id (dumpId path) (rest.map dumpId) s.dumps)

theorem mem_vanished {s : Store} {existing : List String} {path : String} :
    path ∈ (s.vanished existing).toList ↔ (∃ e ∈ s.dumps, e.path = path) ∧ path ∉ existing := by
  unfold vanished
  rw [← SortedSet.mem_def, SortedSet.mem_ofList]
  simp

/-- Removing the paths that are not among given ones spares the records of those that are, if each
record has the identifier of its path. -/
theorem id_notMem_vanished_iff {s : Store} {existing : List String}
    (hdistinct : (s.dumps.map DumpRecord.id).Nodup)
    (hkeyed : ∀ e ∈ s.dumps, e.id = dumpId e.path) {e : DumpRecord} (he : e ∈ s.dumps) :
    e.id ∉ (s.vanished existing).toList.map dumpId ↔ e.path ∈ existing := by
  constructor
  · intro hnot
    by_contra hgone
    refine hnot (List.mem_map.mpr ⟨e.path, mem_vanished.mpr ⟨⟨e, he, rfl⟩, hgone⟩, ?_⟩)
    exact (hkeyed e he).symm
  · intro hpath hremoved
    obtain ⟨path, hvanished, hid⟩ := List.mem_map.mp hremoved
    obtain ⟨⟨e', he', rfl⟩, hgone⟩ := mem_vanished.mp hvanished
    rw [← hkeyed e' he'] at hid
    obtain rfl := List.inj_on_of_nodup_map hdistinct he' he hid
    exact hgone hpath

/-! ### The invariant -/

/-- **A store that keeps its dumps**: it is tidy, and it holds of each recorded path what a known
dump of that path would have left in an empty store. -/
structure Keeps (s : Store) (options : IngestOptions) (known : DumpFile → Prop) : Prop
    extends s.Tidy where
  source : ∀ e ∈ s.dumps, ∃ dump, known dump ∧ dump.path = e.path ∧ s.Shows options dump

theorem keeps_empty (options : IngestOptions) (known : DumpFile → Prop) :
    empty.Keeps options known where
  toTidy := tidy_empty
  source e he := by cases he

namespace Keeps

variable {s : Store} {options : IngestOptions} {known : DumpFile → Prop}

/-- Each record is that of a known dump. -/
theorem eq_recordAt (h : s.Keeps options known) {e : DumpRecord} (he : e ∈ s.dumps) :
    ∃ dump now stats, known dump ∧ s.Shows options dump ∧ e = dump.recordAt now stats := by
  obtain ⟨dump, hknown, hpath, hshows⟩ := h.source e he
  obtain ⟨now, stats, hok⟩ := hshows
  obtain ⟨_, _, _, _, honly⟩ := ingest_empty_ok_iff.mp hok
  have hmem : e ∈ (s.only dump.path).dumps :=
    List.mem_filter.mpr ⟨he, by simpa using hpath.symm⟩
  rw [honly] at hmem
  exact ⟨dump, now, stats, hknown, ⟨now, stats, hok⟩, List.mem_singleton.mp hmem⟩

theorem id_eq (h : s.Keeps options known) {e : DumpRecord} (he : e ∈ s.dumps) :
    e.id = dumpId e.path := by
  obtain ⟨dump, now, stats, _, _, rfl⟩ := h.eq_recordAt he
  rfl

/-- Two records with one identifier are of one path. -/
theorem path_eq (h : s.Keeps options known) (hk : Dump.Distinguishable known) {e : DumpRecord}
    (he : e ∈ s.dumps) {dump : DumpFile} (hknown : known dump) (hid : e.id = dumpId dump.path) :
    e.path = dump.path := by
  obtain ⟨source, now, stats, hsource, _, rfl⟩ := h.eq_recordAt he
  exact hk.paths source dump hsource hknown hid

/-- There is a place for each dump. -/
theorem hasPlaceFor (h : s.Keeps options known) (dump : DumpFile) (now : Nat)
    (stats : IngestStats) : s.HasPlaceFor (dump.recordAt now stats) := by
  intro e he hpath
  rw [h.id_eq he, hpath]
  rfl

/-- **A digest that is still that of the content** tells that the rows are, too. -/
theorem shows_of_hash? (h : s.Keeps options known) (hk : Dump.Distinguishable known)
    (hfound : ∀ dump, known dump → dump.IsFound) {dump : DumpFile} (hknown : known dump)
    (hhash : s.hash? dump.path = some (contentHash dump.octets)) : s.Shows options dump := by
  obtain ⟨e, he, hcontent⟩ := Option.map_eq_some_iff.mp hhash
  have hpath : e.path = dump.path := by simpa using List.find?_some he
  obtain ⟨source, now, stats, hsource, hshows, rfl⟩ := h.eq_recordAt (List.mem_of_find?_eq_some he)
  -- the dump on record may have had another name, but not another content
  have hoctets : source.octets = dump.octets := hk.contents source dump hsource hknown hpath hcontent
  exact hshows.of_eq hpath.symm hoctets.symm
    ((hfound source hsource).lines_eq (hfound dump hknown) hpath hoctets).symm

/-! ### Taking a dump in -/

section Taking

variable {dump : DumpFile} {now : Nat} {stats : IngestStats} {lines : List String}

/-- What is held of a dump after it has been taken in. -/
theorem only_withDump (h : s.Keeps options known) (ts : List Triple) :
    (s.withDump (dump.recordAt now stats) ts).only dump.path =
      { rows := ts.eraseDups.map fun t => ⟨t, dumpId dump.path⟩
        dumps := [dump.recordAt now stats] } := by
  refine eq_of (s.ownRows_withDump (dump.recordAt now stats) ts) ?_
  -- no record is there twice, and all others are of other paths
  have hnodup : (s.withDump (dump.recordAt now stats) ts).dumps.Nodup :=
    (nodup_ids_putRecord (s.replaceTriples _ ts) _ h.distinct).of_map
  refine List.perm_singleton.mp ((List.perm_ext_iff_of_nodup (hnodup.filter _)
    (List.nodup_singleton _)).mpr fun e => ?_)
  rw [List.mem_filter, mem_dumps_withDump, decide_eq_true_eq, List.mem_singleton]
  constructor
  · rintro ⟨rfl | ⟨he, hne⟩, hpath⟩
    · rfl
    · exact absurd (h.hasPlaceFor dump now stats e he hpath) hne
  · rintro rfl
    exact ⟨.inl rfl, rfl⟩

theorem shows_withDump (h : s.Keeps options known) (hb : options.batchSize ≤ maxBatch)
    (hlines : dump.readLines = .ok lines) :
    (s.withDump
      (dump.recordAt now (Dump.statsOf options.maxObjectLength options.filter lines))
      (Dump.accepted options.maxObjectLength options.filter lines)).Shows options dump :=
  ⟨now, _, ingest_empty_ok_iff.mpr ⟨hb, lines, hlines, rfl, h.only_withDump _⟩⟩

/-- What is held of another dump stays as it is. -/
theorem only_withDump_of_ne (h : s.Keeps options known) (hk : Dump.Distinguishable known)
    (ts : List Triple) (hknown : known dump) {other : DumpFile} (hother : known other)
    (hne : other.path ≠ dump.path) :
    (s.withDump (dump.recordAt now stats) ts).only other.path = s.only other.path := by
  refine eq_of (filter_rows_withDump _ _ _ fun t => ?_) (filter_dumps_withDump _ _ _ ?_ ?_)
  · exact decide_eq_false fun hid => hne (hk.paths other dump hother hknown hid.symm)
  · exact decide_eq_false fun hpath => hne hpath.symm
  · intro e he hid
    rw [h.path_eq hk he hknown hid]
    exact decide_eq_false (Ne.symm hne)

theorem without_withDump (h : s.Keeps options known) (hk : Dump.Distinguishable known)
    (ts : List Triple) (hknown : known dump) {dumps : List DumpFile} (hdump : dump ∈ dumps) :
    (s.withDump (dump.recordAt now stats) ts).without dumps = s.without dumps := by
  have hpath : dump.path ∈ dumps.map DumpFile.path := List.mem_map_of_mem hdump
  have hid : dumpId dump.path ∈ dumps.map fun dump => dumpId dump.path :=
    List.mem_map.mpr ⟨dump, hdump, rfl⟩
  refine eq_of (filter_rows_withDump _ _ _ fun t => ?_) (filter_dumps_withDump _ _ _ ?_ ?_)
  · exact decide_eq_false fun hnot => hnot hid
  · exact decide_eq_false fun hnot => hnot hpath
  · intro e he hid
    rw [h.path_eq hk he hknown hid]
    exact decide_eq_false fun hnot => hnot hpath

theorem withDump (h : s.Keeps options known) (hk : Dump.Distinguishable known)
    (hknown : known dump) (hb : options.batchSize ≤ maxBatch) (hlines : dump.readLines = .ok lines)
    (hroom : (s.withDump
      (dump.recordAt now (Dump.statsOf options.maxObjectLength options.filter lines))
      (Dump.accepted options.maxObjectLength options.filter lines)).rows.length ≤ maxRows) :
    (s.withDump (dump.recordAt now (Dump.statsOf options.maxObjectLength options.filter lines))
      (Dump.accepted options.maxObjectLength options.filter lines)).Keeps options known := by
  refine ⟨h.toTidy.withDump hroom, fun e he => ?_⟩
  rcases (mem_dumps_withDump _ _ _).mp he with rfl | ⟨he, hne⟩
  · exact ⟨dump, hknown, rfl, h.shows_withDump hb hlines⟩
  · obtain ⟨source, hsource, hpath, hshows⟩ := h.source e he
    refine ⟨source, hsource, hpath, hshows.congr ?_⟩
    refine h.only_withDump_of_ne hk _ hknown hsource fun heq => hne ?_
    rw [h.id_eq he, ← hpath, heq]
    rfl

end Taking

/-! ### Removing dumps -/

section Removing

variable {paths : List String} {dumps : List DumpFile}

theorem only_deleteDumps (h : s.Keeps options known) {path : String}
    (hnot : dumpId path ∉ paths.map dumpId) :
    (s.deleteDumps paths).1.only path = s.only path := by
  rw [deleteDumps_fst]
  refine eq_of ?_ ?_
  · show (s.rows.filter _).filter _ = s.rows.filter _
    rw [List.filter_filter]
    refine List.filter_congr fun row _ => ?_
    by_cases hrow : row.dump = dumpId path
    · rw [hrow, decide_eq_true hnot, Bool.and_true]
    · rw [decide_eq_false hrow, Bool.false_and]
  · show (s.dumps.filter _).filter _ = s.dumps.filter _
    rw [List.filter_filter]
    refine List.filter_congr fun e he => ?_
    by_cases hpath : e.path = path
    · rw [h.id_eq he, hpath, decide_eq_true hnot, Bool.and_true]
    · rw [decide_eq_false hpath, Bool.false_and]

theorem deleteDumps (h : s.Keeps options known) (paths : List String) :
    (s.deleteDumps paths).1.Keeps options known := by
  refine ⟨h.toTidy.deleteDumps paths, fun e he => ?_⟩
  rw [deleteDumps_fst] at he
  obtain ⟨he, hnot⟩ := List.mem_filter.mp he
  obtain ⟨dump, hknown, hpath, hshows⟩ := h.source e he
  refine ⟨dump, hknown, hpath, hshows.congr (h.only_deleteDumps ?_)⟩
  rw [hpath, ← h.id_eq he]
  simpa using hnot

/-- No dump that exists is taken for one that has vanished. -/
theorem not_vanished (h : s.Keeps options known) (hk : Dump.Distinguishable known)
    {dump : DumpFile} (hknown : known dump) (hdump : dump ∈ dumps) :
    dumpId dump.path ∉ (s.vanished (dumps.map DumpFile.path)).toList.map dumpId := by
  intro hmem
  obtain ⟨path, hpath, hid⟩ := List.mem_map.mp hmem
  obtain ⟨⟨e, he, rfl⟩, hgone⟩ := mem_vanished.mp hpath
  rw [← h.id_eq he] at hid
  rw [h.path_eq hk he hknown hid] at hgone
  exact hgone (List.mem_map_of_mem hdump)

/-- **Nothing remains of what has vanished.** -/
theorem without_deleteDumps (h : s.Keeps options known) :
    (s.deleteDumps (s.vanished (dumps.map DumpFile.path)).toList).1.without dumps = empty := by
  have hexists : ∀ e ∈ s.dumps,
      e.id ∉ (s.vanished (dumps.map DumpFile.path)).toList.map dumpId →
      e.path ∈ dumps.map DumpFile.path := by
    intro e he hnot
    by_contra hgone
    refine hnot ?_
    rw [h.id_eq he]
    exact List.mem_map_of_mem (mem_vanished.mpr ⟨⟨e, he, rfl⟩, hgone⟩)
  rw [deleteDumps_fst]
  refine eq_of (List.filter_eq_nil_iff.mpr fun row hrow => ?_)
    (List.filter_eq_nil_iff.mpr fun e he => ?_)
  · obtain ⟨hrow, hnot⟩ := List.mem_filter.mp hrow
    obtain ⟨e, he, hid⟩ := h.owned row hrow
    rw [← hid] at hnot ⊢
    obtain ⟨dump, hdump, hpath⟩ := List.mem_map.mp (hexists e he (by simpa using hnot))
    rw [h.id_eq he, ← hpath, decide_eq_true_eq, not_not]
    exact List.mem_map.mpr ⟨dump, hdump, rfl⟩
  · obtain ⟨he, hnot⟩ := List.mem_filter.mp he
    rw [decide_eq_true_eq, not_not]
    exact hexists e he (by simpa using hnot)

end Removing

end Keeps

end Store

/-! ### Classification -/

namespace Dump

variable {s : Store} {dumps : List DumpFile} {dump : DumpFile}

/-- The dumps that are not as they were taken in: the new ones, then the modified ones. -/
def Classification.pending (c : Classification) : List DumpFile := c.new ++ c.modified

theorem mem_unchanged : dump ∈ (classify dumps s.hashes).unchanged ↔
    dump ∈ dumps ∧ s.hash? dump.path = some (contentHash dump.octets) := by
  unfold classify
  rw [List.mem_filter, Store.lookup_hashes]
  refine and_congr_right fun _ => ?_
  cases s.hash? dump.path <;> simp

theorem mem_pending : dump ∈ (classify dumps s.hashes).pending ↔
    dump ∈ dumps ∧ s.hash? dump.path ≠ some (contentHash dump.octets) := by
  unfold Classification.pending classify
  rw [List.mem_append, List.mem_filter, List.mem_filter, Store.lookup_hashes, ← and_or_left]
  refine and_congr_right fun _ => ?_
  cases s.hash? dump.path <;> simp

/-- No dump is both new and modified. -/
theorem nodup_pending (h : (dumps.map DumpFile.path).Nodup) :
    ((classify dumps s.hashes).pending.map DumpFile.path).Nodup := by
  unfold Classification.pending classify
  rw [List.map_append]
  refine List.nodup_append.mpr ⟨h.sublist (List.filter_sublist.map _),
    h.sublist (List.filter_sublist.map _), fun path hnew path' hmodified heq => ?_⟩
  obtain ⟨a, ha, rfl⟩ := List.mem_map.mp hnew
  obtain ⟨b, hb, rfl⟩ := List.mem_map.mp hmodified
  have hnone := (List.mem_filter.mp ha).2
  have hsome := (List.mem_filter.mp hb).2
  rw [heq, Option.isNone_iff_eq_none] at hnone
  rw [hnone] at hsome
  cases hsome

/-- Dumps of one path are one dump. -/
theorem eq_of_path (hdistinct : (dumps.map DumpFile.path).Nodup) {a b : DumpFile}
    (ha : a ∈ dumps) (hb : b ∈ dumps) (h : a.path = b.path) : a = b :=
  List.inj_on_of_nodup_map hdistinct ha hb h

theorem pending_subset (dumps : List DumpFile) (s : Store) :
    (classify dumps s.hashes).pending ⊆ dumps := fun _ hdump => (mem_pending.mp hdump).1

/-- The pending dumps have no more rows than all dumps. -/
theorem sum_pending_le (hdistinct : (dumps.map DumpFile.path).Nodup) (s : Store)
    (count : DumpFile → Nat) :
    ((classify dumps s.hashes).pending.map count).sum ≤ (dumps.map count).sum := by
  obtain ⟨part, hperm, hsublist⟩ := List.subperm_of_subset
    (nodup_pending (s := s) hdistinct).of_map (pending_subset dumps s)
  rw [← (hperm.map count).sum_nat]
  exact (hsublist.map count).sum_le_sum fun _ _ => Nat.zero_le _

/-- Where each digest is that of the content, each dump is unchanged. -/
theorem classify_eq_of_current
    (h : ∀ dump ∈ dumps, s.hash? dump.path = some (contentHash dump.octets)) :
    classify dumps s.hashes = { new := [], modified := [], unchanged := dumps } := by
  have hnew : dumps.filter (fun d => (s.hashes.lookup d.path).isNone) = [] :=
    List.filter_eq_nil_iff.mpr fun dump hdump => by simp [Store.lookup_hashes, h dump hdump]
  have hmodified :
      dumps.filter (fun d => (s.hashes.lookup d.path).any (· != contentHash d.octets)) = [] :=
    List.filter_eq_nil_iff.mpr fun dump hdump => by simp [Store.lookup_hashes, h dump hdump]
  have hunchanged :
      dumps.filter (fun d => (s.hashes.lookup d.path).any (· == contentHash d.octets)) = dumps :=
    List.filter_eq_self.mpr fun dump hdump => by simp [Store.lookup_hashes, h dump hdump]
  unfold classify
  rw [hnew, hmodified, hunchanged]

end Dump

end GraphAnswers
