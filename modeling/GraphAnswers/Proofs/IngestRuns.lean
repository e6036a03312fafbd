import GraphAnswers.Proofs.Bookkeeping
import GraphAnswers.Proofs.IngestProgram
import GraphAnswers.Proofs.ScriptEffects
import GraphAnswers.Proofs.Scripts
/-!
# What runs of the ingest program leave in any index

A run of the ingest program may end at any point: wrong arguments, settings that cannot be used, an
index file that refuses an operation.  However it ends, it has done nothing to any index but apply
migrations, read, take dumps in and remove dumps (`Database.IsIngestWork`).  So whatever each of
these keeps, the program keeps (`Program.Ingest.leads_program`); in particular every record goes
by the identifier of its path, and every row belongs to a recorded dump (`Store.Keyed`).
-/
namespace GraphAnswers

/-! ### Stores -/

namespace Store

/-- **A store whose records go by the identifiers of their paths**, and that is tidy otherwise. -/
structure Keyed (s : Store) : Prop extends s.Tidy where
  keyed : ∀ e ∈ s.dumps, e.id = dumpId e.path

theorem keyed_empty : empty.Keyed where
  toTidy := tidy_empty
  keyed e he := by cases he

variable {s : Store}

theorem Keyed.withDump (h : s.Keyed) {r : DumpRecord} {ts : List Triple}
    (hkey : r.id = dumpId r.path) (hroom : (s.withDump r ts).rows.length ≤ maxRows) :
    (s.withDump r ts).Keyed := by
  refine ⟨h.toTidy.withDump hroom, fun e he => ?_⟩
  rcases (mem_dumps_withDump s r ts).mp he with rfl | ⟨he, _⟩
  · exact hkey
  · exact h.keyed e he

theorem Keyed.deleteDumps (h : s.Keyed) (paths : List String) : (s.deleteDumps paths).1.Keyed := by
  refine ⟨h.toTidy.deleteDumps paths, fun e he => h.keyed e ?_⟩
  rw [deleteDumps_fst] at he
  exact (List.mem_filter.mp he).1

end Store

/-! ### Index files -/

namespace Migration

variable {execute : Execution}

theorem store_applyEach {migrations : List Migration}
    (hscripts : ∀ m ∈ migrations, execute.LeavesStore m.text) (d : Database) :
    (applyEach execute migrations d).2.store = d.store := by
  induction migrations generalizing d with
  | nil => rfl
  | cons m rest ih =>
    obtain ⟨hfirst, hothers⟩ := List.forall_mem_cons.mp hscripts
    have hstore := store_apply hfirst d
    unfold applyEach
    rcases hm : m.apply execute d with ⟨failure | ⟨⟨⟩⟩, d'⟩
    all_goals rw [hm] at hstore
    · exact hstore
    · exact (ih hothers d').trans hstore

/-- Migrations whose scripts leave rows and records of dumps alone do so as well. -/
theorem store_run {known : Except Failure (List Migration)}
    (hscripts : ∀ migrations, known = .ok migrations →
      ∀ m ∈ migrations, execute.LeavesStore m.text) (d : Database) :
    (run execute known d).2.store = d.store := by
  unfold run
  split
  · rfl
  · dsimp only
    split
    · rfl
    · rfl
    · exact store_applyEach (fun m hm => hscripts _ rfl m (List.mem_filter.mp hm).1) _

end Migration

namespace Database

/-- What the ingest program does to an index file. -/
inductive IsIngestWork : {α : Type} → Operation α → Prop where
  | migrate {execute : Migration.Execution} {known : Except Failure (List Migration)}
      (scripts : ∀ migrations, known = .ok migrations →
        ∀ m ∈ migrations, execute.LeavesStore m.text) :
      IsIngestWork (Migration.run execute known)
  | read {α : Type} (read : Database → Except Failure α) : IsIngestWork (reading read)
  | takeIn (options : IngestOptions) (now : Nat) (dump : DumpFile) :
      IsIngestWork (ingest options now dump)
  | remove (paths : List String) : IsIngestWork (deleteDumps paths)

/-- A change that comes to its end had the tables that it needs. -/
theorem HasTables.of_ingest {d d' : Database} {options : IngestOptions} {now : Nat}
    {dump : DumpFile} {stats : IngestStats}
    (h : Database.ingest options now dump d = (.ok stats, d')) : d.HasTables := by
  obtain ⟨s, hs, _⟩ := changing_ok_iff.mp h
  obtain ⟨⟨⟩, hrows, hs⟩ := bind_ok_iff.mp hs
  obtain ⟨taken, _, hs⟩ := bind_ok_iff.mp hs
  obtain ⟨⟨⟩, hdumps, _⟩ := bind_ok_iff.mp hs
  exact ⟨hrows, hdumps⟩

theorem of_deleteDumps {d d' : Database} {paths : List String} {removed : Nat}
    (h : deleteDumps paths d = (.ok removed, d')) :
    d.HasTables ∧ removed = (d.store.deleteDumps paths).2 ∧
      d' = { d with store := (d.store.deleteDumps paths).1 } := by
  obtain ⟨s, hs, _, rfl⟩ := changing_ok_iff.mp h
  obtain ⟨⟨⟩, hrows, hs⟩ := bind_ok_iff.mp hs
  obtain ⟨⟨⟩, hdumps, hs⟩ := bind_ok_iff.mp hs
  have hpair : d.store.deleteDumps paths = (s, removed) := Except.ok.inj hs
  rw [hpair]
  exact ⟨⟨hrows, hdumps⟩, rfl, rfl⟩

/-- **One step of the program on an index file**, whether it succeeds or fails. -/
theorem IsIngestWork.keyed {α : Type} {operation : Operation α} (hwork : IsIngestWork operation)
    {d : Database} (h : d.store.Keyed) : (operation d).2.store.Keyed := by
  cases hwork with
  | migrate hscripts => rwa [Migration.store_run hscripts]
  | read read => exact h
  | takeIn options now dump =>
    rcases hrun : ingest options now dump d with ⟨outcome, d'⟩
    cases outcome with
    | error failure =>
      rw [changing_error hrun]
      exact h
    | ok stats =>
      obtain ⟨_, _, _, _, _, hroom, rfl⟩ := (ingest_ok_iff (HasTables.of_ingest hrun)).mp hrun
      exact h.withDump rfl hroom
  | remove paths =>
    rcases hrun : deleteDumps paths d with ⟨outcome, d'⟩
    cases outcome with
    | error failure =>
      rw [changing_error hrun]
      exact h
    | ok removed =>
      obtain ⟨_, _, rfl⟩ := of_deleteDumps hrun
      exact h.deleteDumps paths

end Database

/-! ### Files -/

namespace FileTree

variable {t u : FileTree} {path : String}

/-- Whether every index in the files is keyed. -/
def IsKeyed (t : FileTree) : Prop :=
  ∀ place d, t.content? place = some (.index d) → d.store.Keyed

theorem IsKeyed.databaseAt? (h : t.IsKeyed) {place : Location} {d : Database}
    (hd : t.databaseAt? place = some d) : d.store.Keyed := by
  rw [databaseAt?_eq] at hd
  cases hc : t.content? place with
  | none =>
    rw [hc] at hd
    cases hd
    exact Store.keyed_empty
  | some c =>
    rw [hc] at hd
    rcases c with ⟨_ | _⟩ | d'
    · cases hd
      exact Store.keyed_empty
    · cases hd
    · cases hd
      exact h place d hc

theorem IsKeyed.set (h : t.IsKeyed) {place : Location} (hplace : place ≠ []) {d : Database}
    (hd : d.store.Keyed) : (t.set place (.file (.index d))).IsKeyed := by
  intro other d' hd'
  by_cases hother : other = place
  · subst hother
    rw [content?_set hplace] at hd'
    cases hd'
    exact hd
  · rw [content?_set_of_ne hplace hother] at hd'
    exact h other d' hd'

/-- Work on an index file leaves every index keyed, also if it is refused. -/
theorem IsKeyed.onIndex {α : Type} {operation : Database.Operation α} (h : t.IsKeyed)
    (hwork : Database.IsIngestWork operation) : (t.onIndex path operation).2.IsKeyed := by
  unfold FileTree.onIndex
  split
  · exact h
  · rename_i o ho
    have hplace := ne_nil_of_hasPlace (hasPlace_of_opening? ho)
    split
    · exact h
    · split
      · exact h
      · rename_i before hbefore
        have hkeyed := h.databaseAt? hbefore
        dsimp only
        split
        · exact h.set hplace hkeyed
        · split
          · exact h
          · exact h.set hplace (hwork.keyed hkeyed)

theorem content?_set_directory {place other : Location} {c : Content} (hplace : place ≠ [])
    (hc : (t.set place .directory).content? other = some c) : t.content? other = some c := by
  by_cases hother : other = place
  · subst hother
    unfold content? at hc
    rw [node?_set hplace, if_pos rfl] at hc
    cases hc
  · rwa [content?_set_of_ne hplace hother] at hc

/-- Directories that are made bring no file with them. -/
theorem content?_makeFrom {place other : Location} {names : List String} {c : Content}
    (h : t.makeFrom place names = .ok u) (hc : u.content? other = some c) :
    t.content? other = some c := by
  induction names generalizing t place with
  | nil =>
    cases h
    exact hc
  | cons name rest ih =>
    unfold makeFrom at h
    split at h
    · exact ih h
    · split at h
      · split at h
        · cases h
        · exact ih h
      · dsimp only at h
        split at h
        · exact ih h
        · cases h
        · split at h
          · exact content?_set_directory (by simp) (ih h)
          · cases h

theorem content?_makeDirectories (hmade : t.makeDirectories path = .ok u) {place : Location}
    {c : Content} (hc : u.content? place = some c) : t.content? place = some c := by
  unfold FileTree.makeDirectories at hmade
  split at hmade
  · cases hmade
  · split at hmade
    · cases hsystem : system.makeFrom [] _ with
      | error obstacle =>
        rw [hsystem] at hmade
        cases hmade
      | ok made =>
        rw [hsystem] at hmade
        change (if _ then _ else _) = _ at hmade
        split at hmade
        · cases hmade
          exact hc
        · cases hmade
    · exact content?_makeFrom hmade hc

theorem IsKeyed.makeDirectories (h : t.IsKeyed) (hmade : t.makeDirectories path = .ok u) :
    u.IsKeyed := fun place d hd => h place d (content?_makeDirectories hmade hd)

end FileTree

/-! ### The program -/

namespace Program.Ingest

/-! ### Its parts, one after another -/

/-- What arguments ask for, if it is not help. -/
def asked (given : Arguments) : Program Request :=
  match given.others with
  | [] => refuse
  | dumpPath :: _ => pure {
      dumpPath
      index := given.value? "index"
      isForced := given.has "force"
      removesVanished := given.has "cleanup"
      subjects := given.values "subject" }

theorem requested_eq (call : Invocation) : requested call =
    match Arguments.read? switches call.arguments with
    | none => refuse
    | some given =>
      if 1 < given.others.length || given.others.contains "" then refuse
      else if given.has "help" then usage.forM print >>= fun _ => throw (.exit 0)
      else asked given := by
  unfold requested
  cases Arguments.read? switches call.arguments with
  | none => rfl
  | some given =>
    dsimp only
    split
    · rfl
    · split <;> rfl

/-- The dumps to be taken in, of those found. -/
def chosen (request : Request) (dumps : List DumpFile) (hashes : List (String × String)) :
    List DumpFile :=
  if request.isForced then dumps
  else (Dump.classify dumps hashes).new ++ (Dump.classify dumps hashes).modified

/-- What is said about the dumps found. -/
def announcement (request : Request) (found : Dump.Classification) : String :=
  if request.isForced then "Mode: full re-ingestion (all dumps)"
  else "Classification: new=" ++ toString found.new.length ++ ", modified=" ++
    toString found.modified.length ++ ", unchanged (skip)=" ++ toString found.unchanged.length

/-- What is said in the end. -/
def summary (dumps chosen : List DumpFile) (found : Dump.Classification) (tally : Tally)
    (removed : Nat) : Program Unit := do
  inform "=== Ingestion Complete ==="
  inform ("Dumps discovered: " ++ toString dumps.length)
  inform ("  New: " ++ toString found.new.length)
  inform ("  Modified: " ++ toString found.modified.length)
  inform ("  Unchanged (skipped): " ++ toString found.unchanged.length)
  inform ("Dumps processed: " ++ toString chosen.length ++ " (errors: " ++ toString tally.errors ++
    ")")
  inform ("Triples inserted: " ++ toString tally.triples)
  inform ("Lines skipped: " ++ toString tally.skipped)
  if 0 < removed then inform ("Triples removed with deleted dumps: " ++ toString removed)
  if 0 < tally.errors then
    record .warn "Some dumps failed to ingest. Check logs above for details."

theorem update_eq (call : Invocation) (settings : Settings) (request : Request) (path : String)
    (dumps : List DumpFile) : update call settings request path dumps = (do
      let hashes ← carryOut path (Database.reading Database.hashes)
      inform (announcement request (Dump.classify dumps hashes))
      let tally ← takeInAll path (optionsOf settings request.subjects) call.now
        (chosen request dumps hashes).length 1 (chosen request dumps hashes) {}
      let removed ← removeVanished request path dumps
      summary dumps (chosen request dumps hashes) (Dump.classify dumps hashes) tally removed) := by
  unfold update announcement chosen
  refine congrArg _ (funext fun hashes => ?_)
  cases request.isForced <;> rfl

/-! ### The scripts in the installation -/

/-- **Whether the scripts of an installation leave the rows and the records of dumps alone**, as they
are carried out in a call: whatever lies in the directory of the migrations and is a text. -/
def ScriptsLeaveStore (call : Invocation) (t : FileTree) : Prop :=
  ∀ name octets text, t.content? [migrationsPath, name] = some (.octets octets) →
    Text.ofOctets? octets = some text → call.execute.LeavesStore text

variable {call : Invocation} {t u : FileTree}

theorem ScriptsLeaveStore.of_load (h : ScriptsLeaveStore call t) {migrations : List Migration}
    (hload : Migration.load t migrationsPath = .ok migrations) :
    ∀ m ∈ migrations, call.execute.LeavesStore m.text := by
  intro m hm
  have hplace : t.locate? migrationsPath = some [migrationsPath] := by rfl
  obtain ⟨scripts, hscripts, _, rfl⟩ := Migration.load_ok_iff.mp hload
  obtain ⟨⟨name, node⟩, hscript, hfile⟩ := Migration.mem_readAll.mp (Migration.mem_inOrder.mp hm)
  obtain ⟨_, _, octets, rfl, htext⟩ := Migration.ofFile_ok_iff.mp hfile
  unfold Migration.scripts? at hscripts
  obtain ⟨place, hfound, rfl⟩ := Option.map_eq_some_iff.mp hscripts
  obtain ⟨hlocated, _⟩ := Option.filter_eq_some_iff.mp hfound
  obtain rfl : [migrationsPath] = place := Option.some.inj (hplace.symm.trans hlocated)
  have hfind : t.nodes.find? [migrationsPath, name] = some (.file (.octets octets)) :=
    SortedMap.find?_of_mem (FileTree.mem_entries_iff.mp (List.mem_filter.mp hscript).1)
  refine h name octets m.text ?_ htext
  unfold FileTree.content? FileTree.node?
  rw [if_neg (by simp), hfind]

theorem ScriptsLeaveStore.makeDirectories (h : ScriptsLeaveStore call t) {path : String}
    (hmade : t.makeDirectories path = .ok u) : ScriptsLeaveStore call u :=
  fun name octets text hcontent =>
    h name octets text (FileTree.content?_makeDirectories hmade hcontent)

/-! ### What its runs keep -/

/-- Whether a property of sessions outlasts whatever the program does. -/
structure Outlasts (P : Session → Prop) : Prop extends IsQuiet P where
  work : ∀ {α : Type} (path : String) (operation : Database.Operation α),
    Database.IsIngestWork operation →
      ∀ s, P s → P { s with files := (s.files.onIndex path operation).2 }
  home : ∀ s path t, s.files.makeDirectories path = .ok t → P s → P { s with files := t }

theorem outlasts_isKeyed : Outlasts fun s => s.files.IsKeyed where
  toIsQuiet := isQuiet_files FileTree.IsKeyed
  work _ _ hwork _ h := h.onIndex hwork
  home _ _ _ hmade h := h.makeDirectories hmade

theorem outlasts_reported : Outlasts fun s => s.errors ≠ [] where
  toIsQuiet := isQuiet_reported
  work _ _ _ _ h := h
  home _ _ _ _ h := h

section Outlasting

variable {P : Session → Prop}

theorem preserves_requested (hquiet : IsQuiet P) (call : Invocation) :
    Preserves P (requested call) := by
  rw [requested_eq]
  split
  · exact preserves_throw _
  · split
    · exact preserves_throw _
    · split
      · exact (preserves_forM_print hquiet usage).bind fun _ => preserves_throw _
      · unfold asked
        split
        · exact preserves_throw _
        · exact preserves_pure _

theorem preserves_summary (hquiet : IsQuiet P) (dumps chosen : List DumpFile)
    (found : Dump.Classification) (tally : Tally) (removed : Nat) :
    Preserves P (summary dumps chosen found tally removed) := by
  unfold summary
  iterate 8 refine (preserves_inform hquiet _).bind fun _ => ?_
  have hwarn : Preserves P (if 0 < tally.errors then
      record .warn "Some dumps failed to ingest. Check logs above for details." else pure ()) := by
    split
    · exact preserves_record hquiet _ _
    · exact preserves_pure ()
  dsimp only
  split
  · exact (preserves_inform hquiet _).bind fun _ => hwarn
  · exact hwarn

variable (h : Outlasts P)
include h

theorem preserves_work {α : Type} {path : String} {operation : Database.Operation α}
    (hwork : Database.IsIngestWork operation) : Preserves P (carryOut path operation) :=
  preserves_carryOut (h.work path operation hwork)

theorem preserves_takeIn (path : String) (options : IngestOptions) (now : Nat) (dump : DumpFile)
    (tally : Tally) : Preserves P (takeIn path options now dump tally) := by
  refine (preserves_attempt (h.work path _ (.takeIn options now dump))).bind fun outcome => ?_
  cases outcome with
  | ok stats => exact (preserves_inform h.toIsQuiet _).bind fun _ => preserves_pure _
  | error failure => exact (preserves_record h.toIsQuiet .error _).bind fun _ => preserves_pure _

theorem preserves_takeInAll (path : String) (options : IngestOptions) (now total place : Nat)
    (dumps : List DumpFile) (tally : Tally) :
    Preserves P (takeInAll path options now total place dumps tally) := by
  induction dumps generalizing place tally with
  | nil => exact preserves_pure tally
  | cons dump rest ih =>
    exact (preserves_inform h.toIsQuiet _).bind fun _ =>
      (preserves_takeIn h path options (now + place) dump tally).bind fun tally => ih _ tally

theorem preserves_removeVanished (request : Request) (path : String) (dumps : List DumpFile) :
    Preserves P (removeVanished request path dumps) := by
  refine preserves_files.bind fun t => ?_
  split
  · refine (preserves_work h (.read _)).bind fun gone => ?_
    split
    · exact preserves_pure 0
    · split
      · exact (preserves_inform h.toIsQuiet _).bind fun _ => preserves_work h (.remove _)
      · exact (preserves_inform h.toIsQuiet _).bind fun _ => preserves_pure 0
  · exact preserves_pure 0

omit h in
theorem preserves_makeHome
    (hhome : ∀ s path t, s.files.makeDirectories path = .ok t → P s → P { s with files := t })
    (path : String) : Preserves P (makeHome path) := by
  intro s hs
  unfold makeHome
  have hfiles : perform files s = (.ok s.files, s) := rfl
  rw [perform_bind, hfiles]
  dsimp only
  cases hmade : s.files.makeDirectories (Text.parentPath path) with
  | ok t => exact hhome s _ t hmade hs
  | error obstacle => exact hs

theorem preserves_update (call : Invocation) (settings : Settings) (request : Request)
    (path : String) (dumps : List DumpFile) :
    Preserves P (update call settings request path dumps) := by
  rw [update_eq]
  refine (preserves_work h (.read _)).bind fun hashes => ?_
  refine (preserves_inform h.toIsQuiet _).bind fun _ => ?_
  refine (preserves_takeInAll h path _ _ _ _ _ _).bind fun tally => ?_
  refine (preserves_removeVanished h request path dumps).bind fun removed => ?_
  exact preserves_summary h.toIsQuiet _ _ _ _ _

theorem preserves_refresh (call : Invocation) (settings : Settings) (request : Request)
    (path : String) : Preserves P (refresh call settings request path) := by
  refine preserves_files.bind fun t => (preserves_expect _).bind fun dumps => ?_
  split
  · exact preserves_record h.toIsQuiet _ _
  · exact preserves_update h call settings request path dumps

/-- **What outlasts each thing that the program does outlasts its runs**, however they end, if the
scripts of the installation leave rows and records of dumps alone. -/
theorem leads_program (call : Invocation) :
    Leads (fun s => P s ∧ ScriptsLeaveStore call s.files) P (program call) := by
  have hquiet : IsQuiet fun s => P s ∧ ScriptsLeaveStore call s.files :=
    ⟨fun s output hs => ⟨h.print s output hs.1, hs.2⟩,
      fun s entry hs => ⟨h.record s entry hs.1, hs.2⟩⟩
  have hfirst (s : Session) (hs : P s ∧ ScriptsLeaveStore call s.files) : P s := hs.1
  have hinform (text : String) := preserves_inform hquiet text
  refine (preserves_requested hquiet call).leads hfirst fun request => ?_
  refine (hinform _).leads hfirst fun _ => (preserves_settings call).leads hfirst fun settings => ?_
  refine (preserves_indexPath settings _).leads hfirst fun path => ?_
  refine (hinform _).leads hfirst fun _ => (hinform _).leads hfirst fun _ => ?_
  -- the scripts are those that lie there when the directories of the index have been made
  have hhome : Preserves (fun s => P s ∧ ScriptsLeaveStore call s.files) (makeHome path) :=
    preserves_makeHome
      (fun s path t hmade hs => ⟨h.home s path t hmade hs.1, hs.2.makeDirectories hmade⟩) path
  refine hhome.leads hfirst fun _ s hs => ?_
  have hmigrated : Preserves P (carryOut path
      (Migration.run call.execute (Migration.load s.files migrationsPath))) :=
    preserves_work h (.migrate fun _ hload => hs.2.of_load hload)
  exact hmigrated.bind (fun _ => (preserves_inform h.toIsQuiet _).bind fun _ =>
    preserves_refresh h call settings request path) s hs.1

end Outlasting

end Program.Ingest

end GraphAnswers
