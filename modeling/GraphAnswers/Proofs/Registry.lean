import GraphAnswers.Proofs.Cache
import GraphAnswers.Proofs.Ingest
import GraphAnswers.Proofs.StoreState
import GraphAnswers.Server
/-!
# Asking a registry for the index in a file

A registry that is asked again compares states, and clears its cache if they differ.  When they do
not differ, the rows are the same (`Store.same_rows`), so what is remembered holds as before.
Either way the registry answers from the rows of the file (`Registry.Serves.carryOut`).
-/
namespace GraphAnswers

open FileTree

/-- Whether caches and readers with the settings of a registry can be had. -/
def Registry.IsAble (r : Registry) : Prop :=
  r.capacity ≤ LookupCache.maxCapacity ∧ r.patience ≤ maxPatience

instance (r : Registry) : Decidable r.IsAble :=
  inferInstanceAs (Decidable (_ ∧ _))

/-- Whether what is kept of an index fits a store: it has its state, remembers only what the store
answers, and holds no other file than the present one of a place. -/
structure OpenIndex.Fits (x : OpenIndex) (files : FileTree) (place : Location) (s : Store) :
    Prop where
  state : s.state = .ok x.state
  cache : x.cache.Agrees s.index
  held : x.held = none ∨ x.held = some (files.handle place)

/-- **What a registry knows of an index** whose store is in order at a time: if anything is kept, it
fits a store that the present one tracks. -/
def Registry.Follows (r : Registry) (files : FileTree) (name : String) (place : Location)
    (current : Store) (now : Nat) : Prop :=
  ∀ x, r.opened.find? name = some x → r.IsAble ∧ ∃ seen time,
    time ≤ now ∧ seen.Sound time ∧ seen.Tracks current time ∧ x.Fits files place seen

/-- **An index in service**: where its file is, and what it holds. -/
structure Registry.Serves (r : Registry) (files : FileTree) (name path : String) (o : Opening)
    (d : Database) (now : Nat) : Prop where
  named : indexFile? r.root name = some path
  holds : files.Holds path o d
  located : files.locate? path = some o.place
  tables : d.HasTables
  sound : d.store.Sound now
  follows : r.Follows files name o.place d.store now

namespace Registry

variable {r : Registry} {files : FileTree} {name path : String} {o : Opening} {d : Database}
  {now : Nat} {x : OpenIndex}

theorem Serves.isFile (h : r.Serves files name path o d now) : files.isFile path = true := by
  obtain ⟨c, hc, _⟩ := h.holds.content
  exact isFile_of_content? h.located hc

/-- Reading the present file. -/
theorem Serves.readHeld {α : Type} (h : r.Serves files name path o d now)
    (read : Database → Except Failure α) :
    files.readHeld r.patience (files.handle o.place) read =
      if r.patience ≤ maxPatience then read d else .error .io := by
  obtain ⟨c, hc, hd⟩ := h.holds.content
  unfold FileTree.readHeld
  rw [contentOf?_handle, hc, Option.getD_some, hd]

theorem Serves.index_eq (h : r.Serves files name path o d now) (hp : r.patience ≤ maxPatience) :
    files.index r.patience (files.handle o.place) = d.store.index := by
  unfold FileTree.index
  simp only [h.readHeld, if_pos hp, h.tables.index]

theorem Serves.openIndex (h : r.Serves files name path o d now) :
    files.openIndex path = .ok (files.handle o.place) := by
  unfold FileTree.openIndex
  rw [h.holds.opened]

theorem Serves.fileOf (h : r.Serves files name path o d now)
    (hx : x.held = none ∨ x.held = some (files.handle o.place)) :
    fileOf files x path = .ok (files.handle o.place) := by
  unfold Registry.fileOf
  rcases hx with hx | hx
  · rw [hx]
    exact h.openIndex
  · rw [hx]

/-- What is kept of an index fits the present store if this has the state that was seen. -/
theorem Serves.fits_present (h : r.Serves files name path o d now)
    (hfind : r.opened.find? name = some x) (hstate : d.store.state = .ok x.state) :
    x.Fits files o.place d.store := by
  obtain ⟨_, seen, time, _, hseen, htracks, hfits⟩ := h.follows x hfind
  -- what is remembered answers for the present rows as well
  have hrows := Store.same_rows hseen h.sound htracks (hfits.state.trans hstate.symm)
  refine ⟨hstate, ?_, hfits.held⟩
  rw [Store.index_congr hrows]
  exact hfits.cache

/-- **Whether the state has changed or not, what is kept fits the present store.** -/
theorem Serves.revisit (h : r.Serves files name path o d now)
    (hfind : r.opened.find? name = some x) :
    ∃ y, r.revisit files name path x = (.ok y, r.keep name y) ∧ y.Fits files o.place d.store := by
  obtain ⟨⟨_, hp⟩, _, _, _, _, _, hfits⟩ := h.follows x hfind
  obtain ⟨state, hstate⟩ : ∃ state, d.store.state = .ok state := ⟨_, h.sound.state_eq⟩
  unfold Registry.revisit
  rw [h.fileOf hfits.held]
  dsimp only
  rw [h.readHeld, if_pos hp, h.tables.state, hstate]
  dsimp only
  by_cases hsame : x.state = state
  · rw [if_pos hsame]
    subst hsame
    exact ⟨_, rfl, hstate, (h.fits_present hfind hstate).cache, .inr rfl⟩
  · rw [if_neg hsame]
    exact ⟨_, rfl, hstate, LookupCache.agrees_clear _ _, .inl rfl⟩

theorem Serves.openNew (h : r.Serves files name path o d now) (hable : r.IsAble) :
    ∃ y, r.openNew files name path = (.ok y, r.keep name y) ∧ y.Fits files o.place d.store := by
  obtain ⟨hc, hp⟩ := hable
  obtain ⟨state, hstate⟩ : ∃ state, d.store.state = .ok state := ⟨_, h.sound.state_eq⟩
  unfold Registry.openNew
  rw [h.openIndex, LookupCache.ofCapacity?_of_le hc]
  simp only [bind, Except.bind, h.readHeld, if_pos hp, h.tables.state, hstate]
  exact ⟨_, rfl, hstate, LookupCache.agrees_ofCapacity _ _, .inr rfl⟩

theorem Serves.get (h : r.Serves files name path o d now) (hable : r.IsAble) :
    ∃ y, r.get files name = (.ok y, r.keep name y) ∧ y.Fits files o.place d.store := by
  unfold Registry.get
  rw [h.named]
  dsimp only
  rw [if_pos h.isFile]
  cases hfind : r.opened.find? name with
  | none => exact h.openNew hable
  | some x => exact h.revisit hfind

/-- A registry whose settings ask for too much opens nothing. -/
theorem Serves.get_error (h : r.Serves files name path o d now) (hnot : ¬r.IsAble) :
    r.get files name = (.error .io, r) := by
  have hfind : r.opened.find? name = none := by
    cases hfind : r.opened.find? name with
    | none => rfl
    | some x => exact absurd (h.follows x hfind).1 hnot
  unfold Registry.get
  rw [h.named]
  dsimp only
  rw [if_pos h.isFile, hfind]
  unfold Registry.openNew
  rw [h.openIndex]
  by_cases hc : r.capacity ≤ LookupCache.maxCapacity
  · have hp : ¬r.patience ≤ maxPatience := fun hp => hnot ⟨hc, hp⟩
    rw [LookupCache.ofCapacity?_of_le hc]
    simp only [bind, Except.bind, h.readHeld, if_neg hp]
  · rw [LookupCache.ofCapacity?_of_lt (Nat.not_le.mp hc)]
    rfl

/-- What is kept is followed if it fits a store that the present one tracks. -/
theorem Serves.keepSeen (h : r.Serves files name path o d now) (hable : r.IsAble) {seen : Store}
    {time : Nat} (htime : time ≤ now) (hseen : seen.Sound time)
    (htracks : seen.Tracks d.store time) (hx : x.Fits files o.place seen) :
    (r.keep name x).Serves files name path o d now where
  named := h.named
  holds := h.holds
  located := h.located
  tables := h.tables
  sound := h.sound
  follows := by
    intro y hy
    unfold Registry.keep at hy
    rw [SortedMap.find?_insert_self] at hy
    cases hy
    exact ⟨hable, seen, time, htime, hseen, htracks, hx⟩

theorem Serves.keep (h : r.Serves files name path o d now) (hable : r.IsAble)
    (hx : x.Fits files o.place d.store) : (r.keep name x).Serves files name path o d now :=
  h.keepSeen hable (Nat.le_refl _) h.sound (d.store.tracks_refl now) hx

/-- An inquiry through the cache is answered from the rows. -/
theorem Serves.consult {α : Type} (h : r.Serves files name path o d now) (hable : r.IsAble)
    (hx : x.Fits files o.place d.store) (inquiry : Inquiry α) :
    (r.consult files name path x inquiry).1 = inquiry.run d.store.index ∧
      (r.consult files name path x inquiry).2.Serves files name path o d now ∧
      ∃ opened, (r.consult files name path x inquiry).2 = { r with opened } := by
  obtain ⟨hrun, hagrees⟩ := inquiry.runCached_eq hx.cache
  have hkept : OpenIndex.Fits
      { x with
        cache := (inquiry.runCached d.store.index x.cache).2
        held := some (files.handle o.place) } files o.place d.store :=
    ⟨hx.state, hagrees, .inr rfl⟩
  unfold Registry.consult
  rw [h.fileOf hx.held]
  cases inquiry with
  | done outcome => exact ⟨rfl, h, r.opened, rfl⟩
  | property lookup next =>
    dsimp only
    rw [h.index_eq hable.2]
    exact ⟨hrun, h.keep hable hkept, _, rfl⟩
  | topics term language next =>
    dsimp only
    rw [h.index_eq hable.2]
    exact ⟨hrun, h.keep hable hkept, _, rfl⟩

/-- **What a registry answers comes from the rows of the file.** -/
theorem Serves.carryOut {α : Type} (h : r.Serves files name path o d now) (inquiry : Inquiry α) :
    (r.carryOut files name inquiry).1 =
        (if r.IsAble then inquiry.run d.store.index else .error .io) ∧
      (r.carryOut files name inquiry).2.Serves files name path o d now ∧
      ∃ opened, (r.carryOut files name inquiry).2 = { r with opened } := by
  unfold Registry.carryOut
  by_cases hable : r.IsAble
  · obtain ⟨x, hget, hx⟩ := h.get hable
    have hnamed : indexFile? (r.keep name x).root name = some path := h.named
    rw [hget, if_pos hable]
    dsimp only
    rw [hnamed, Option.getD_some]
    obtain ⟨houtcome, hserves, opened, hopened⟩ := (h.keep hable hx).consult hable hx inquiry
    exact ⟨houtcome, hserves, opened, hopened⟩
  · rw [h.get_error hable, if_neg hable]
    exact ⟨rfl, h, r.opened, rfl⟩

/-- A registry that finds no file says so, and keeps nothing of the index. -/
theorem carryOut_missing {α : Type} (hnamed : indexFile? r.root name = some path)
    (h : files.isFile path = false) (inquiry : Inquiry α) :
    r.carryOut files name inquiry = (.error (.indexUnavailable name), r.close name) ∧
      (r.close name).opened.find? name = none := by
  refine ⟨?_, ?_⟩
  · unfold Registry.carryOut Registry.get
    rw [hnamed]
    simp [h]
  · unfold Registry.close
    rw [SortedMap.find?_erase, if_pos rfl]

/-! ### When files change -/

/-- An index goes on being served after a change of its file, if its dumps before a time are as they
were. -/
theorem Serves.changed (h : r.Serves files name path o d now) {d' : Database} {later : Nat}
    (ht : d'.HasTables) (hs : d'.store.Sound later) (hle : now ≤ later)
    (htracks : ∀ seen time, time ≤ now → Store.Tracks seen d.store time →
      Store.Tracks seen d'.store time) :
    r.Serves (files.set o.place (.file (.index d'))) name path o d' later where
  named := h.named
  holds := h.holds.set d'
  located := by
    rw [(sameDirectories_set h.holds.hasPlace _).locate?]
    exact h.located
  tables := ht
  sound := hs
  follows := by
    intro x hx
    obtain ⟨hable, seen, time, htime, hseen, htrack, hfits⟩ := h.follows x hx
    exact ⟨hable, seen, time, Nat.le_trans htime hle, hseen, htracks seen time htime htrack,
      hfits.state, hfits.cache, hfits.held⟩

theorem Serves.write (h : r.Serves files name path o d now) {files' : FileTree} {other : String}
    {octets : List UInt8} (hw : files.write other octets = .ok files')
    (hne : files.locate? other ≠ files.locate? path) :
    r.Serves files' name path o d now := by
  obtain ⟨hholds, hlocated, hhandle⟩ := h.holds.write h.located hw hne
  refine ⟨h.named, hholds, hlocated, h.tables, h.sound, fun x hx => ?_⟩
  obtain ⟨hable, seen, time, htime, hseen, htrack, hfits⟩ := h.follows x hx
  refine ⟨hable, seen, time, htime, hseen, htrack, hfits.state, hfits.cache, ?_⟩
  rw [hhandle]
  exact hfits.held

/-- A dump that is taken in at a later time leaves the index in service. -/
theorem Serves.takeIn (h : r.Serves files name path o d now) {options : IngestOptions} {time : Nat}
    {dump : DumpFile} {stats : IngestStats} {files' : FileTree} (hlater : now ≤ time)
    (hi : files.onIndex path (Database.ingest options time dump) = (.ok stats, files')) :
    ∃ d', r.Serves files' name path o d' (time + 1) := by
  rw [h.holds.onIndex_eq] at hi
  rcases hrun : Database.ingest options time dump d with ⟨out, d'⟩
  rw [hrun] at hi
  cases hi
  obtain ⟨_, lines, _, rfl, _, hroom, rfl⟩ := (Database.ingest_ok_iff h.tables).mp hrun
  -- without names for them, the record and its digests would be evaluated
  generalize hr : DumpFile.recordAt dump time
    (Dump.statsOf options.maxObjectLength options.filter lines) = record at hroom ⊢
  generalize hts : Dump.accepted options.maxObjectLength options.filter lines = ts at hroom ⊢
  have hcount : record.tripleCount = ts.eraseDups.length := by
    rw [← Store.signedCount_of_room d.store record ts hroom, ← hr, ← hts]
    simp only [DumpFile.recordAt, Dump.statsOf]
  have htime : record.ingestedAt = time := by
    rw [← hr]
    rfl
  have hsound := h.sound.withDump hcount (by rw [htime]; exact hlater) hroom
  rw [htime] at hsound
  exact ⟨_, h.changed (h.tables.withStore _) hsound (by omega) fun seen earlier hearlier ht =>
    ht.withDump (by omega)⟩

theorem Serves.takeIn_error (h : r.Serves files name path o d now) {options : IngestOptions}
    {time : Nat} {dump : DumpFile} {failure : Failure} {files' : FileTree}
    (hi : files.onIndex path (Database.ingest options time dump) = (.error failure, files')) :
    r.Serves files' name path o d now := by
  rw [h.holds.onIndex_eq] at hi
  rcases hrun : Database.ingest options time dump d with ⟨out, d'⟩
  rw [hrun] at hi
  cases hi
  rw [Database.changing_error hrun]
  exact h.changed h.tables h.sound (Nat.le_refl _) fun _ _ _ ht => ht

theorem Serves.ingest (h : r.Serves files name path o d now) {options : IngestOptions} {time : Nat}
    {file dump : String} {stats : IngestStats} {files' : FileTree} (hlater : now ≤ time)
    (hi : files.ingest path options time file dump = (.ok stats, files')) :
    ∃ d', r.Serves files' name path o d' (time + 1) := by
  unfold FileTree.ingest at hi
  split at hi
  · cases hi
  · exact h.takeIn hlater hi

theorem Serves.ingest_error (h : r.Serves files name path o d now) {options : IngestOptions}
    {time : Nat} {file dump : String} {failure : Failure} {files' : FileTree}
    (hi : files.ingest path options time file dump = (.error failure, files')) :
    r.Serves files' name path o d now := by
  unfold FileTree.ingest at hi
  split at hi
  · cases hi
    exact h
  · exact h.takeIn_error hi

theorem Serves.removeDumps (h : r.Serves files name path o d now) {dumps : List String}
    {outcome : Except Failure Nat} {files' : FileTree}
    (hi : files.removeDumps path dumps = (outcome, files')) :
    ∃ d', r.Serves files' name path o d' now := by
  unfold FileTree.removeDumps at hi
  split at hi
  · cases hi
    exact ⟨d, h⟩
  · have hsound := h.sound.deleteDumps dumps
    rw [h.holds.onIndex_eq, Database.deleteDumps_eq h.tables hsound.room] at hi
    cases hi
    exact ⟨_, h.changed (h.tables.withStore _) hsound (Nat.le_refl _) fun seen time _ ht =>
      ht.deleteDumps dumps⟩

end Registry

end GraphAnswers
