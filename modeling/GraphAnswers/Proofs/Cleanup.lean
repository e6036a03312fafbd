import GraphAnswers.Proofs.IngestRuns
import GraphAnswers.Proofs.NewIndex
/-!
# What a cleanup leaves

A run that removes what has vanished, that comes to its end and that reports no failure leaves an
index of exactly the dumps that are on disk (`Program.Ingest.cleanup_leaves_found`), if there are
dumps on disk.  The files may have been changed in any way before, and the program may have been run
on them any number of times, to whatever end (`Program.Ingest.AfterRuns`).  The scripts of the
installation have to leave rows and records of dumps alone, as those that come with it do.

The order of the steps matters.  Each dump that is found is recorded when the loop over the dumps
has ended without a failure: it was taken in, or it was recorded with the same digest before.  So no
record that is removed afterwards can have the identifier of one that was found, for then it would
be that record.

A run that finds no dump ends before anything is removed (`Program.Ingest.nothing_found`), so that
the dumps of an emptied directory stay in the index
(`Program.Ingest.emptied_directory_not_cleaned`).
-/
namespace GraphAnswers

/-! ### Stores of given dumps -/

namespace Store

/-- Whether a dump is recorded under a path. -/
def HasPath (s : Store) (path : String) : Prop := ∃ e ∈ s.dumps, e.path = path

/-- **A store of the dumps of given paths**: these are recorded and no others, and no row is of any
other dump. -/
structure IsOf (s : Store) (paths : List String) : Prop where
  recorded : ∀ path, s.HasPath path ↔ path ∈ paths
  owned : ∀ row ∈ s.rows, ∃ path ∈ paths, row.dump = dumpId path

variable {s : Store}

/-- Removing the records that are not among given paths leaves those that are, if all of these are
recorded. -/
theorem Keyed.isOf_deleteDumps (h : s.Keyed) {paths : List String}
    (hall : ∀ path ∈ paths, s.HasPath path) :
    (s.deleteDumps (s.vanished paths).toList).1.IsOf paths := by
  have hkept {e : DumpRecord} (he : e ∈ s.dumps) :
      e.id ∉ (s.vanished paths).toList.map dumpId ↔ e.path ∈ paths :=
    id_notMem_vanished_iff h.distinct h.keyed he
  rw [deleteDumps_fst]
  constructor
  · intro path
    constructor
    · rintro ⟨e, he, rfl⟩
      obtain ⟨he, hnot⟩ := List.mem_filter.mp he
      exact (hkept he).mp (of_decide_eq_true hnot)
    · intro hpath
      obtain ⟨e, he, rfl⟩ := hall path hpath
      exact ⟨e, List.mem_filter.mpr ⟨he, decide_eq_true ((hkept he).mpr hpath)⟩, rfl⟩
  · intro row hrow
    obtain ⟨hrow, hnot⟩ := List.mem_filter.mp hrow
    obtain ⟨e, he, hid⟩ := h.owned row hrow
    rw [← hid] at hnot
    exact ⟨e.path, (hkept he).mp (of_decide_eq_true hnot), by rw [← hid, h.keyed e he]⟩

end Store

/-! ### The loop over the dumps -/

namespace Database

variable {options : IngestOptions} {now : Nat} {d d' : Database}

/-- A dump that is taken in is recorded, and no other record is lost but one with its identifier. -/
theorem hasPath_ingest {dump : DumpFile} {stats : IngestStats}
    (h : ingest options now dump d = (.ok stats, d')) (hkeyed : d.store.Keyed) {path : String}
    (hpath : d.store.HasPath path ∨ dump.path = path)
    (hdistinct : dumpId dump.path = dumpId path → dump.path = path) : d'.store.HasPath path := by
  obtain ⟨_, lines, _, _, _, _, rfl⟩ := (ingest_ok_iff (HasTables.of_ingest h)).mp h
  by_cases hsame : dump.path = path
  · exact ⟨_, (Store.mem_dumps_withDump _ _ _).mpr (.inl rfl), hsame⟩
  · obtain ⟨e, he, rfl⟩ := hpath.resolve_right hsame
    refine ⟨e, (Store.mem_dumps_withDump _ _ _).mpr (.inr ⟨he, fun hid => hsame ?_⟩), rfl⟩
    rw [hkeyed.keyed e he] at hid
    exact hdistinct hid.symm

/-- **When no dump of the loop fails**, those that were recorded and those taken in are recorded. -/
theorem hasPath_ingestEach {dumps chosen : List DumpFile} (hchosen : ∀ c ∈ chosen, c ∈ dumps)
    (hdistinct : ∀ a ∈ dumps, ∀ b ∈ dumps, dumpId a.path = dumpId b.path → a.path = b.path)
    (hkeyed : d.store.Keyed) (h : ingestEach options now chosen d = ([], d')) :
    d'.store.Keyed ∧ ∀ dump ∈ dumps,
      (d.store.HasPath dump.path ∨ ∃ c ∈ chosen, c.path = dump.path) →
        d'.store.HasPath dump.path := by
  induction chosen generalizing d now with
  | nil =>
    cases h
    refine ⟨hkeyed, fun dump _ hrecorded => ?_⟩
    rcases hrecorded with hrecorded | ⟨c, hc, _⟩
    · exact hrecorded
    · cases hc
  | cons first rest ih =>
    unfold ingestEach at h
    rcases hrun : ingest options now first d with ⟨outcome, next⟩
    rw [hrun] at h
    cases outcome with
    | error failure => cases h
    | ok stats =>
      have hnext : next.store.Keyed := by
        have hkept := (IsIngestWork.takeIn options now first).keyed hkeyed
        rwa [hrun] at hkept
      obtain ⟨hlast, hall⟩ := ih (fun c hc => hchosen c (List.mem_cons_of_mem _ hc)) hnext h
      refine ⟨hlast, fun dump hdump hrecorded => hall dump hdump ?_⟩
      have hfirst := hdistinct first (hchosen first List.mem_cons_self) dump hdump
      rcases hrecorded with hrecorded | ⟨c, hc, hpath⟩
      · exact .inl (hasPath_ingest hrun hkeyed (.inl hrecorded) hfirst)
      · rcases List.mem_cons.mp hc with rfl | hc
        · exact .inl (hasPath_ingest hrun hkeyed (.inr hpath) hfirst)
        · exact .inr ⟨c, hc, hpath⟩

end Database

/-! ### Index files at work -/

namespace FileTree

/-- Whether the file at a path holds an index, as one does that was worked on. -/
structure Stores (t : FileTree) (path : String) (o : Opening) (d : Database) : Prop where
  opened : t.opening? path = some o
  held : t.content? o.place = some (.index d)

variable {t t' : FileTree} {path : String} {o : Opening} {d : Database}

theorem Stores.hasPlace (h : t.Stores path o d) : t.hasPlace o.place = true :=
  hasPlace_of_opening? h.opened

theorem Stores.database? (h : t.Stores path o d) : t.database? path = some d := by
  rw [database?_eq_some_iff]
  refine ⟨o, h.opened, ?_⟩
  rw [databaseAt?_eq, h.held]
  rfl

theorem Stores.set (h : t.Stores path o d) (d' : Database) :
    (t.set o.place (.file (.index d'))).Stores path o d' := by
  refine ⟨by rw [opening?_set h.hasPlace, h.opened], ?_⟩
  rw [content?_set (ne_nil_of_hasPlace h.hasPlace)]

theorem Stores.set_self (h : t.Stores path o d) : t.set o.place (.file (.index d)) = t := by
  have hheld := h.held
  have hfind : t.nodes.find? o.place = some (.file (.index d)) := by
    unfold content? FileTree.node? at hheld
    rw [if_neg (by simpa using ne_nil_of_hasPlace h.hasPlace)] at hheld
    split at hheld
    · rename_i hnode
      rw [hnode, Option.some.inj hheld]
    · cases hheld
  unfold FileTree.set
  rw [SortedMap.insert_of_find? hfind]

/-- Whether no index in the files has rows or records of dumps. -/
def IsBare (t : FileTree) : Prop := ∀ place d, t.content? place = some (.index d) → d.store = .empty

theorem isBare_empty : empty.IsBare := by
  intro place d hd
  unfold content? node? at hd
  split at hd
  · rename_i hnode
    split at hnode <;> cases hnode
  · cases hd

/-- What comes to a place is no index, or a bare one. -/
theorem IsBare.set (h : t.IsBare) {place : Location} {node : Node} (hplace : place ≠ [])
    (hnode : ∀ d, node = .file (.index d) → d.store = .empty) : (t.set place node).IsBare := by
  intro other d hd
  by_cases hother : other = place
  · subst hother
    unfold content? at hd
    rw [node?_set hplace, if_pos rfl] at hd
    split at hd
    · rename_i c hc
      cases hd
      exact hnode d (Option.some.inj hc)
    · cases hd
  · rw [content?_set_of_ne hplace hother] at hd
    exact h other d hd

theorem IsBare.setEach (h : t.IsBare) {nodes : List (Location × Node)}
    (hnodes : ∀ e ∈ nodes, e.1 ≠ [] ∧ ∀ d, e.2 = .file (.index d) → d.store = .empty) :
    (nodes.foldl (fun t e => t.set e.1 e.2) t).IsBare := by
  induction nodes generalizing t with
  | nil => exact h
  | cons e rest ih =>
    obtain ⟨hplace, hnode⟩ := hnodes e List.mem_cons_self
    exact ih (h.set hplace hnode) fun e' he' => hnodes e' (List.mem_cons_of_mem e he')

theorem IsBare.isKeyed (h : t.IsBare) : t.IsKeyed := by
  intro place d hd
  rw [h place d hd]
  exact Store.keyed_empty

/-- What is left after a removal was there before. -/
theorem content?_remove {place : Location} {c : Content} (h : t.remove path = .ok t')
    (hc : t'.content? place = some c) : t.content? place = some c := by
  unfold remove at h
  split at h
  · rename_i gone _ _
    cases h
    unfold content? node? at hc ⊢
    by_cases hroot : place.isEmpty = true
    · rwa [if_pos hroot] at hc ⊢
    · rw [if_neg hroot] at hc ⊢
      dsimp only at hc
      rw [SortedMap.find?_erase] at hc
      by_cases hgone : place = gone
      · rw [if_pos hgone] at hc
        cases hc
      · rwa [if_neg hgone] at hc
  · cases h

section Work

variable {α : Type} {operation : Database.Operation α} {a : α}

/-- Work that succeeds makes of the file an index. -/
theorem stores_of_onIndex (h : t.onIndex path operation = (.ok a, t')) :
    ∃ o before, t.databaseAt? o.place = some before ∧ (operation before).1 = .ok a ∧
      t'.Stores path o (operation before).2 := by
  obtain ⟨o, before, ho, hd, _, _, hok, rfl⟩ := onIndex_ok h
  have hplace := hasPlace_of_opening? ho
  refine ⟨o, before, hd, hok, by rw [opening?_set hplace, ho], ?_⟩
  rw [content?_set (ne_nil_of_hasPlace hplace)]

/-- Work that succeeds on an index puts what it comes to in its place. -/
theorem Stores.onIndex (h : t.Stores path o d) (hrun : t.onIndex path operation = (.ok a, t')) :
    (operation d).1 = .ok a ∧ t' = t.set o.place (.file (.index (operation d).2)) := by
  obtain ⟨o', before, ho, hd, _, _, hok, rfl⟩ := onIndex_ok hrun
  cases h.opened.symm.trans ho
  rw [databaseAt?_eq, h.held] at hd
  cases hd
  exact ⟨hok, rfl⟩

/-- Reading leaves the files as they are. -/
theorem Stores.onIndex_reading {read : Database → Except Failure α} (h : t.Stores path o d)
    (hrun : t.onIndex path (Database.reading read) = (.ok a, t')) : read d = .ok a ∧ t' = t := by
  obtain ⟨hok, hsame⟩ := h.onIndex hrun
  exact ⟨hok, hsame.trans h.set_self⟩

end Work

end FileTree

namespace Program.Ingest

/-! ### Parts that came to their end -/

section Ended

variable {s s' : Session} {path : String} {o : FileTree.Opening} {d : Database}
  {request : Request} {dumps : List DumpFile}

/-- **The loop over the dumps**, if it reports no failure. -/
theorem of_perform_takeInAll {options : IngestOptions} {now total place : Nat}
    {tally tally' : Tally} (h : s.files.Stores path o d)
    (hrun : perform (takeInAll path options now total place dumps tally) s = (.ok tally', s'))
    (hnone : s'.errors = []) :
    ∃ d', Database.ingestEach options (now + place) dumps d = ([], d') ∧
      s'.files = s.files.set o.place (.file (.index d')) := by
  induction dumps generalizing s d place tally with
  | nil =>
    cases hrun
    exact ⟨d, rfl, h.set_self.symm⟩
  | cons dump rest ih =>
    obtain ⟨_, s₁, hinform, hrun⟩ := perform_bind_ok_iff.mp hrun
    obtain ⟨next, s₂, htaken, hrun⟩ := perform_bind_ok_iff.mp hrun
    obtain ⟨outcome, s₃, hattempt, hreport⟩ := perform_bind_ok_iff.mp htaken
    obtain ⟨houtcome, rfl⟩ := of_perform_attempt hattempt
    rw [← of_perform_inform hinform] at h ⊢
    cases outcome with
    | error failure =>
      -- the failure is reported, and what was reported stays so to the end
      obtain ⟨_, s₄, hrecord, hpure⟩ := perform_bind_ok_iff.mp hreport
      cases hpure
      have hreported : s₂.errors ≠ [] := by
        simp [Session.errors, (of_perform_record hrecord).2]
      exact absurd hnone
        ((preserves_takeInAll outlasts_reported _ _ _ _ _ _ _).of_perform hrun hreported)
    | ok stats =>
      obtain ⟨_, s₄, hinform, hpure⟩ := perform_bind_ok_iff.mp hreport
      cases hpure
      obtain ⟨hok, hfiles⟩ := h.onIndex (Prod.ext houtcome.symm rfl)
      rcases hd : Database.ingest options (now + place) dump d with ⟨outcome, next⟩
      rw [hd] at hok hfiles
      obtain rfl : outcome = .ok stats := hok
      have hleft := (of_perform_inform hinform).trans hfiles
      obtain ⟨d', heach, hlast⟩ := ih (hleft ▸ h.set next) hrun
      refine ⟨d', ?_, by rw [hlast, hleft, FileTree.set_set]⟩
      unfold Database.ingestEach
      rw [hd]
      exact heach

/-- **Removing what has vanished**, which is done in a directory and where it is asked for. -/
theorem of_perform_removeVanished {removed : Nat} (h : s.files.Stores path o d)
    (hrun : perform (removeVanished request path dumps) s = (.ok removed, s')) :
    s'.files = s.files.set o.place (.file (.index
      (if s.files.isDirectory request.dumpPath && request.removesVanished then d.pruned dumps
        else d))) := by
  obtain ⟨t, s₁, hfiles, hrun⟩ := perform_bind_ok_iff.mp hrun
  obtain ⟨rfl, rfl⟩ := of_perform_files hfiles
  by_cases hroot : s.files.isDirectory request.dumpPath = true
  · rw [if_pos hroot] at hrun
    rw [hroot, Bool.true_and]
    obtain ⟨gone, s₂, hgone, hrun⟩ := perform_bind_ok_iff.mp hrun
    obtain ⟨t, hindex, rfl⟩ := of_perform_carryOut hgone
    obtain ⟨hok, rfl⟩ := h.onIndex_reading hindex
    obtain ⟨⟨⟩, hdumps, hpure⟩ := bind_ok_iff.mp hok
    obtain rfl : d.store.vanished (dumps.map DumpFile.path) = gone := Except.ok.inj hpure
    split at hrun
    · -- nothing has vanished
      rename_i hempty
      have hnone : (d.store.vanished (dumps.map DumpFile.path)).toList = [] := by
        simpa [SortedSet.isEmpty] using hempty
      have hstay : d.pruned dumps = d := by
        unfold Database.pruned
        rw [hnone]
        rfl
      cases hrun
      rw [hstay, ite_self, h.set_self]
    · split at hrun
      · rename_i hremoves
        obtain ⟨_, s₃, hinform, hrun⟩ := perform_bind_ok_iff.mp hrun
        obtain ⟨t, hindex, rfl⟩ := of_perform_carryOut hrun
        rw [of_perform_inform hinform] at hindex
        obtain ⟨hok, rfl⟩ := h.onIndex hindex
        obtain ⟨_, _, hleft⟩ := Database.of_deleteDumps (Prod.ext hok rfl)
        rw [if_pos hremoves]
        exact congrArg (fun d => s.files.set o.place (.file (.index d))) hleft
      · rename_i hremoves
        obtain ⟨_, s₃, hinform, hrun⟩ := perform_bind_ok_iff.mp hrun
        cases hrun
        rw [if_neg hremoves, h.set_self, of_perform_inform hinform]
  · rw [if_neg hroot] at hrun
    cases hrun
    rw [Bool.not_eq_true] at hroot
    rw [hroot, Bool.false_and, if_neg Bool.false_ne_true, h.set_self]

/-- Every dump that is found is taken in, or it is recorded already. -/
theorem hasPath_or_chosen {dump : DumpFile} (hdump : dump ∈ dumps) (store : Store) :
    store.HasPath dump.path ∨ ∃ c ∈ chosen request dumps store.hashes, c.path = dump.path := by
  unfold chosen Dump.classify
  by_cases hforced : request.isForced = true
  · rw [if_pos hforced]
    exact .inr ⟨dump, hdump, rfl⟩
  · rw [if_neg hforced]
    cases hhash : store.hash? dump.path with
    | none =>
      refine .inr ⟨dump, List.mem_append_left _ (List.mem_filter.mpr ⟨hdump, ?_⟩), rfl⟩
      rw [Store.lookup_hashes, hhash]
      rfl
    | some hash =>
      obtain ⟨e, he, _⟩ := Option.map_eq_some_iff.mp hhash
      exact .inl ⟨e, List.mem_of_find?_eq_some he, by simpa using List.find?_some he⟩

theorem chosen_subset {hashes : List (String × String)} :
    ∀ c ∈ chosen request dumps hashes, c ∈ dumps := by
  intro c hc
  unfold chosen Dump.classify at hc
  split at hc
  · exact hc
  · rcases List.mem_append.mp hc with hc | hc
    · exact (List.mem_filter.mp hc).1
    · exact (List.mem_filter.mp hc).1

/-- **A run that has found dumps** and reports no failure. -/
theorem of_perform_update {call : Invocation} {settings : Settings} (h : s.files.Stores path o d)
    (hrun : perform (update call settings request path dumps) s = (.ok (), s'))
    (hnone : s'.errors = []) :
    ∃ d', Database.ingestEach (optionsOf settings request.subjects) (call.now + 1)
        (chosen request dumps d.store.hashes) d = ([], d') ∧
      s'.files = s.files.set o.place (.file (.index
        (if s.files.isDirectory request.dumpPath && request.removesVanished then d'.pruned dumps
          else d'))) := by
  rw [update_eq] at hrun
  obtain ⟨hashes, s₁, hread, hrun⟩ := perform_bind_ok_iff.mp hrun
  obtain ⟨t, hindex, rfl⟩ := of_perform_carryOut hread
  obtain ⟨hok, rfl⟩ := h.onIndex_reading hindex
  obtain ⟨⟨⟩, _, hpure⟩ := bind_ok_iff.mp hok
  obtain rfl : d.store.hashes = hashes := Except.ok.inj hpure
  obtain ⟨_, s₂, hinform, hrun⟩ := perform_bind_ok_iff.mp hrun
  rw [← of_perform_inform hinform] at h ⊢
  obtain ⟨tally, s₃, htaken, hrun⟩ := perform_bind_ok_iff.mp hrun
  obtain ⟨removed, s₄, hremoved, hrun⟩ := perform_bind_ok_iff.mp hrun
  -- neither the removal nor the summary takes a report back, and the summary changes no file
  have hnone₄ : s₄.errors = [] := by
    by_contra hreported
    exact (preserves_summary isQuiet_reported _ _ _ _ _).of_perform hrun hreported hnone
  have hnone₃ : s₃.errors = [] := by
    by_contra hreported
    exact (preserves_removeVanished outlasts_reported _ _ _).of_perform hremoved hreported hnone₄
  have hlast : s'.files = s₄.files :=
    (preserves_summary (isQuiet_files (· = s₄.files)) _ _ _ _ _).of_perform hrun rfl
  obtain ⟨d', heach, hfiles⟩ := of_perform_takeInAll h htaken hnone₃
  have hstored : s₃.files.Stores path o d' := hfiles ▸ h.set d'
  refine ⟨d', heach, ?_⟩
  rw [hlast, of_perform_removeVanished hstored hremoved, hfiles, FileTree.set_set,
    (FileTree.sameDirectories_set h.hasPlace _).isDirectory]

/-- A run that finds no dump changes no file. -/
theorem nothing_found {call : Invocation} {settings : Settings}
    (hfound : Dump.discover s.files request.dumpPath = .ok [])
    (hrun : perform (refresh call settings request path) s = (.ok (), s')) :
    s'.files = s.files := by
  obtain ⟨t, s₁, hfiles, hrun⟩ := perform_bind_ok_iff.mp hrun
  obtain ⟨rfl, rfl⟩ := of_perform_files hfiles
  obtain ⟨found, s₂, hexpect, hrun⟩ := perform_bind_ok_iff.mp hrun
  obtain ⟨hdiscovered, rfl⟩ := of_perform_expect hexpect
  obtain rfl : [] = found := Except.ok.inj (hfound.symm.trans hdiscovered)
  exact (of_perform_record hrun).1

/-- **What a cleanup of a directory leaves** if it reports no failure and there are dumps. -/
theorem of_perform_refresh {call : Invocation} {settings : Settings} (h : s.files.Stores path o d)
    (hkeyed : d.store.Keyed) (hremoves : request.removesVanished = true)
    (hrun : perform (refresh call settings request path) s = (.ok (), s'))
    (hnone : s'.errors = []) (hroot : s'.files.isDirectory request.dumpPath = true)
    (hfound : Dump.discover s'.files request.dumpPath = .ok dumps) (hsome : dumps ≠ [])
    (hdistinct : ∀ a ∈ dumps, ∀ b ∈ dumps, dumpId a.path = dumpId b.path → a.path = b.path) :
    ∃ d', s'.files.Stores path o d' ∧ d'.store.IsOf (dumps.map DumpFile.path) := by
  cases hdiscovered : Dump.discover s.files request.dumpPath with
  | error failure =>
    obtain ⟨t, s₁, hfiles, hrun⟩ := perform_bind_ok_iff.mp hrun
    obtain ⟨rfl, rfl⟩ := of_perform_files hfiles
    obtain ⟨found, s₂, hexpect, _⟩ := perform_bind_ok_iff.mp hrun
    cases hdiscovered.symm.trans (of_perform_expect hexpect).1
  | ok found =>
    by_cases hempty : found = []
    · subst hempty
      rw [nothing_found hdiscovered hrun, hdiscovered] at hfound
      exact absurd (Except.ok.inj hfound).symm hsome
    · obtain ⟨t, s₁, hfiles, hrun⟩ := perform_bind_ok_iff.mp hrun
      obtain ⟨rfl, rfl⟩ := of_perform_files hfiles
      obtain ⟨found', s₂, hexpect, hrun⟩ := perform_bind_ok_iff.mp hrun
      obtain ⟨hsame, rfl⟩ := of_perform_expect hexpect
      obtain rfl : found = found' := Except.ok.inj (hdiscovered.symm.trans hsame)
      rw [if_neg (by simpa using hempty)] at hrun
      obtain ⟨d', heach, hfiles⟩ := of_perform_update h hrun hnone
      rw [hfiles, (FileTree.sameDirectories_set h.hasPlace _).isDirectory] at hroot
      rw [hroot, hremoves, Bool.and_self, if_pos rfl] at hfiles
      rw [hfiles, Dump.discover_set_index h.hasPlace h.held hroot, hdiscovered] at hfound
      obtain rfl : found = dumps := Except.ok.inj hfound
      obtain ⟨hkeyed', hall⟩ := Database.hasPath_ingestEach chosen_subset hdistinct hkeyed heach
      refine ⟨d'.pruned found, hfiles ▸ h.set _, hkeyed'.isOf_deleteDumps fun path hpath => ?_⟩
      obtain ⟨dump, hdump, rfl⟩ := List.mem_map.mp hpath
      exact hall dump hdump (hasPath_or_chosen hdump d.store)

end Ended

/-! ### Whole runs -/

/-- What a call asks for: the request of its arguments, and the path of the index. -/
structure Asks (call : Invocation) (t : FileTree) (request : Request) (path : String) : Prop where
  arguments : (perform (requested call) { files := t }).1 = .ok request
  index : ∃ settings, (perform (Program.settings call) { files := t }).1 = .ok settings ∧
    settings.indexPath (request.index.getD settings.defaultIndex) = .ok path

section Runs

variable {t : FileTree} {call : Invocation} {request : Request} {path : String} {s' : Session}

/-- **A run that comes to its end** has opened the index and gone on to the dumps from there. -/
theorem of_perform_program (hasks : Asks call t request path) (ht : t.IsKeyed)
    (hscripts : ScriptsLeaveStore call t)
    (hrun : perform (program call) { files := t } = (.ok (), s')) :
    ∃ settings s o d, s.files.Stores path o d ∧ d.store.Keyed ∧
      perform (refresh call settings request path) s = (.ok (), s') := by
  obtain ⟨asked, s₁, hrequested, hrun⟩ := perform_bind_ok_iff.mp hrun
  have hfiles₁ : s₁.files = t :=
    (preserves_requested (isQuiet_files (· = t)) call).of_perform hrequested rfl
  obtain rfl : asked = request := by
    have hrequest := hasks.arguments
    rw [hrequested] at hrequest
    exact Except.ok.inj hrequest
  obtain ⟨_, s₂, hinform, hrun⟩ := perform_bind_ok_iff.mp hrun
  have hfiles₂ := (of_perform_inform hinform).trans hfiles₁
  obtain ⟨settings, s₃, hsettings, hrun⟩ := perform_bind_ok_iff.mp hrun
  have hfiles₃ : s₃.files = t :=
    (preserves_settings (P := fun s => s.files = t) call).of_perform hsettings hfiles₂
  obtain ⟨found, s₄, hpath, hrun⟩ := perform_bind_ok_iff.mp hrun
  obtain ⟨rfl, rfl⟩ : found = path ∧ s₃ = s₄ := by
    obtain ⟨settings', hsettings', hindex⟩ := hasks.index
    rw [← settings_of_files hfiles₂, hsettings] at hsettings'
    cases hsettings'
    unfold indexPath at hpath
    rw [hindex] at hpath
    cases hpath
    exact ⟨rfl, rfl⟩
  obtain ⟨_, s₅, hinform₅, hrun⟩ := perform_bind_ok_iff.mp hrun
  obtain ⟨_, s₆, hinform₆, hrun⟩ := perform_bind_ok_iff.mp hrun
  obtain ⟨_, s₇, hhome, hrun⟩ := perform_bind_ok_iff.mp hrun
  obtain ⟨_, s₈, hfiles, hrun⟩ := perform_bind_ok_iff.mp hrun
  obtain ⟨rfl, rfl⟩ := of_perform_files hfiles
  obtain ⟨_, s₉, hmigrated, hrun⟩ := perform_bind_ok_iff.mp hrun
  obtain ⟨_, s, hinform, hrefresh⟩ := perform_bind_ok_iff.mp hrun
  have hfiles₆ : s₆.files = t := by
    rw [of_perform_inform hinform₆, of_perform_inform hinform₅, hfiles₃]
  have hkeyed₇ : s₇.files.IsKeyed :=
    (preserves_makeHome outlasts_isKeyed.home _).of_perform hhome (by rwa [hfiles₆])
  have hscripts₇ : ScriptsLeaveStore call s₇.files :=
    (preserves_makeHome (fun _ _ _ hmade h => h.makeDirectories hmade) _).of_perform
      (P := fun s => ScriptsLeaveStore call s.files) hhome (by rwa [hfiles₆])
  obtain ⟨t', hindex, rfl⟩ := of_perform_carryOut hmigrated
  obtain ⟨o, before, hbefore, _, hstored⟩ := FileTree.stores_of_onIndex hindex
  have hlast : s.files = t' := of_perform_inform hinform
  rw [← hlast] at hstored
  refine ⟨settings, s, o, _, hstored, ?_, hrefresh⟩
  exact (Database.IsIngestWork.migrate fun _ hload => hscripts₇.of_load hload).keyed
    (hkeyed₇.databaseAt? hbefore)

/-- Files that runs of the program may have left: it began where no index had rows or records of
dumps, was run any number of times, with whatever arguments and to whatever end, on scripts that left
rows and records of dumps alone, and between the runs files came, changed and went, of which none was
an index but one that there had been before. -/
inductive AfterRuns : FileTree → Prop where
  | start {t : FileTree} : t.IsBare → AfterRuns t
  | run {t : FileTree} (call : Invocation) (scripts : ScriptsLeaveStore call t) :
      AfterRuns t → AfterRuns (perform (program call) { files := t }).2.files
  | change {t u : FileTree} :
      AfterRuns t →
      (∀ place d, u.content? place = some (.index d) →
        ∃ before, t.content? before = some (.index d)) →
      AfterRuns u

/-- Whatever has happened, every index is keyed. -/
theorem AfterRuns.isKeyed (h : AfterRuns t) : t.IsKeyed := by
  induction h with
  | start hbare => exact hbare.isKeyed
  | run call hscripts _ ih => exact leads_program outlasts_isKeyed call _ ⟨ih, hscripts⟩
  | change _ hsame ih =>
    intro place d hd
    obtain ⟨before, hbefore⟩ := hsame place d hd
    exact ih before d hbefore

/-- **A cleanup leaves what is on disk.**  A run that is to remove what has vanished from a
directory comes to its end, reports no failure, and there are dumps in the directory: then the index
has records of these dumps and of no others, and no row of any other dump. -/
theorem cleanup_leaves_found (ht : AfterRuns t) (hscripts : ScriptsLeaveStore call t)
    (hasks : Asks call t request path) (hremoves : request.removesVanished = true)
    (hrun : perform (program call) { files := t } = (.ok (), s')) (hnone : s'.errors = [])
    (hroot : s'.files.isDirectory request.dumpPath = true) {dumps : List DumpFile}
    (hfound : Dump.discover s'.files request.dumpPath = .ok dumps) (hsome : dumps ≠ [])
    (hdistinct : ∀ a ∈ dumps, ∀ b ∈ dumps, dumpId a.path = dumpId b.path → a.path = b.path) :
    ∃ d, s'.files.database? path = some d ∧ d.store.IsOf (dumps.map DumpFile.path) := by
  obtain ⟨settings, s, o, d, hstored, hkeyed, hrefresh⟩ :=
    of_perform_program hasks ht.isKeyed hscripts hrun
  obtain ⟨d', hstored', hisOf⟩ :=
    of_perform_refresh hstored hkeyed hremoves hrefresh hnone hroot hfound hsome hdistinct
  exact ⟨d', hstored'.database?, hisOf⟩

end Runs

/-! ### A directory that dumps vanish from -/

instance : DecidableEq Request := fun a b =>
  decidable_of_iff (a.dumpPath = b.dumpPath ∧ a.index = b.index ∧ a.isForced = b.isForced ∧
    a.removesVanished = b.removesVanished ∧ a.subjects = b.subjects)
    (by cases a; cases b; simp)

/-- What there is in an installation with an index that was just made and with dumps of one
content. -/
def installed (names : List String) : List (Location × Node) :=
  [(["config.toml"], .file (.octets (Text.octets "factqa = ['.', 'f']"))),
    (["migrations"], .directory), (["dumps"], .directory),
    (["f.db"], .file (.index Migration.fresh))] ++
  names.map fun name => (["dumps", name], .file (.octets FileTree.jaws))

/-- Such an installation. -/
def installation (names : List String) : FileTree :=
  (installed names).foldl (fun t e => t.set e.1 e.2) .empty

/-- A call that is to clean up. -/
def cleaning (now : Nat) : Invocation := { arguments := ["--cleanup", "dumps"], now }

/-- The call carries out the scripts that come with an installation, and no others. -/
theorem scriptsLeaveStore_cleaning (now : Nat) (t : FileTree) : ScriptsLeaveStore (cleaning now) t :=
  fun _ _ text _ _ => Migration.leavesStore_ofStatements text

/-- The files after a run on an installation, and after the last of its dumps was removed. -/
def bereft (names : List String) : FileTree :=
  match (perform (program (cleaning 0)) { files := installation names }).2.files.remove
      ("dumps/" ++ names.getLastD "") with
  | .ok t => t
  | .error _ => .empty

theorem isBare_installation (names : List String) : (installation names).IsBare := by
  refine FileTree.isBare_empty.setEach fun e he => ?_
  rcases List.mem_append.mp he with he | he
  · simp only [List.mem_cons, List.not_mem_nil, or_false] at he
    rcases he with rfl | rfl | rfl | rfl
    all_goals
      refine ⟨by simp, fun d hd => ?_⟩
      cases hd
    rfl
  · obtain ⟨name, _, rfl⟩ := List.mem_map.mp he
    exact ⟨by simp, fun d hd => by cases hd⟩

theorem afterRuns_bereft (names : List String) : AfterRuns (bereft names) := by
  have hrun := (AfterRuns.start (isBare_installation names)).run (cleaning 0)
    (scriptsLeaveStore_cleaning 0 _)
  unfold bereft
  split
  · rename_i t hremoved
    exact hrun.change fun place d hd => ⟨place, FileTree.content?_remove hremoved hd⟩
  · exact .start FileTree.isBare_empty

/-- The run that cleans up after the removal. -/
def cleaned (names : List String) : Except Ending Unit × Session :=
  perform (program (cleaning 1)) { files := bereft names }

theorem cleanup_leaves_found_jaws : ∃ d,
    (cleaned ["a.nt", "b.nt"]).2.files.database? "./f.db" = some d ∧ d.store.IsOf ["a.nt"] := by
  have hrun :
      (perform (requested (cleaning 1)) { files := bereft ["a.nt", "b.nt"] }).1 =
        .ok { dumpPath := "dumps", removesVanished := true } ∧
      (perform (Program.settings (cleaning 1)) { files := bereft ["a.nt", "b.nt"] }).1 =
        .ok { indexRoot := ".", defaultIndex := "f" } ∧
      (cleaned ["a.nt", "b.nt"]).1 = .ok () ∧ (cleaned ["a.nt", "b.nt"]).2.errors = [] ∧
      (cleaned ["a.nt", "b.nt"]).2.files.isDirectory "dumps" = true ∧
      (Dump.discover (cleaned ["a.nt", "b.nt"]).2.files "dumps").map (List.map DumpFile.path) =
        .ok ["a.nt"] := by
    decide +kernel
  have hcleaned : perform (program (cleaning 1)) { files := bereft ["a.nt", "b.nt"] } =
      cleaned ["a.nt", "b.nt"] := by rw [cleaned]
  -- from here on the run must not be evaluated
  generalize cleaned ["a.nt", "b.nt"] = run at hrun hcleaned ⊢
  obtain ⟨outcome, s'⟩ := run
  obtain ⟨hasked, hset, rfl, hnone, hroot, hpaths⟩ := hrun
  have hasks : Asks (cleaning 1) (bereft ["a.nt", "b.nt"])
      { dumpPath := "dumps", removesVanished := true } "./f.db" :=
    ⟨hasked, _, hset, by decide +kernel⟩
  obtain ⟨dumps, hfound, hpaths⟩ := map_ok_iff.mp hpaths
  have hone (a : DumpFile) (ha : a ∈ dumps) : a.path = "a.nt" := by
    have hpath : a.path ∈ dumps.map DumpFile.path := List.mem_map_of_mem ha
    rw [hpaths] at hpath
    exact List.mem_singleton.mp hpath
  rw [← hpaths]
  refine cleanup_leaves_found (afterRuns_bereft _) (scriptsLeaveStore_cleaning 1 _) hasks rfl hcleaned hnone hroot hfound ?_
    fun a ha b hb _ => (hone a ha).trans (hone b hb).symm
  rintro rfl
  cases hpaths

/-- **A directory that all dumps have vanished from is not cleaned up**: the run comes to its end
and reports no failure, and the dump is still recorded. -/
theorem emptied_directory_not_cleaned :
    AfterRuns (bereft ["a.nt"]) ∧
      (cleaned ["a.nt"]).1 = .ok () ∧ (cleaned ["a.nt"]).2.errors = [] ∧
      (cleaned ["a.nt"]).2.files.isDirectory "dumps" = true ∧
      (Dump.discover (cleaned ["a.nt"]).2.files "dumps").map (List.map DumpFile.path) = .ok [] ∧
      ∃ d, (cleaned ["a.nt"]).2.files.database? "./f.db" = some d ∧ ¬d.store.IsOf [] := by
  have hrun : (cleaned ["a.nt"]).1 = .ok () ∧ (cleaned ["a.nt"]).2.errors = [] ∧
      (cleaned ["a.nt"]).2.files.isDirectory "dumps" = true ∧
      (Dump.discover (cleaned ["a.nt"]).2.files "dumps").map (List.map DumpFile.path) = .ok [] ∧
      ((cleaned ["a.nt"]).2.files.database? "./f.db").map (·.store.dumps.map DumpRecord.path) =
        some ["a.nt"] := by
    decide +kernel
  obtain ⟨hok, hnone, hroot, hfound, hrecorded⟩ := hrun
  obtain ⟨d, hd, hpaths⟩ := Option.map_eq_some_iff.mp hrecorded
  refine ⟨afterRuns_bereft _, hok, hnone, hroot, hfound, d, hd, fun hisOf => ?_⟩
  have hpath : "a.nt" ∈ d.store.dumps.map DumpRecord.path := hpaths ▸ List.mem_cons_self
  obtain ⟨e, he, hname⟩ := List.mem_map.mp hpath
  cases (hisOf.recorded "a.nt").mp ⟨e, he, hname⟩

end Program.Ingest

end GraphAnswers
