import GraphAnswers.Program.Ingest
import GraphAnswers.Proofs.Ingest
import GraphAnswers.Proofs.Programs
/-!
# What the ingest program does to an index

The program opens the index file once for each step.  Seen together, the steps take the index to
what `Database.ingestEach` makes of it, without the dumps that have vanished if that is asked for
(`Database.updated`), and leave every other file as it is (`Program.Ingest.does_update`).
-/
namespace GraphAnswers

/-- Whether a dump can be taken in where there is room for it. -/
def DumpFile.IsReadable (dump : DumpFile) (options : IngestOptions) : Prop :=
  options.batchSize ≤ maxBatch ∧ ∃ lines, dump.readLines = .ok lines

/-- How many rows a dump gives. -/
def DumpFile.rowCount (dump : DumpFile) (options : IngestOptions) : Nat :=
  match dump.readLines with
  | .ok lines => (Dump.accepted options.maxObjectLength options.filter lines).eraseDups.length
  | .error _ => 0

namespace Database

/-- **A dump that can be read is taken in**, if there is room for its rows and no other dump has its
path. -/
theorem ingest_of_isReadable {d : Database} (ht : d.HasTables) {options : IngestOptions} (now : Nat)
    {dump : DumpFile} (hfree : ∀ stats, d.store.HasPlaceFor (dump.recordAt now stats))
    (hreadable : dump.IsReadable options)
    (hroom : d.store.rows.length + dump.rowCount options ≤ Store.maxRows) :
    ∃ stats d', ingest options now dump d = (.ok stats, d') := by
  obtain ⟨hb, lines, hlines⟩ := hreadable
  refine ⟨_, _, (ingest_ok_iff ht).mpr ⟨hb, lines, hlines, rfl, hfree _, ?_, rfl⟩⟩
  refine Nat.le_trans (Store.length_rows_withDump_le _ _ _) ?_
  unfold DumpFile.rowCount at hroom
  rwa [hlines] at hroom

/-- Takes dumps in one after another, the first at a time and each a little later than the one
before.  Those that failed are told, each with its failure. -/
def ingestEach (options : IngestOptions) (now : Nat) :
    List DumpFile → Database → List (DumpFile × Failure) × Database
  | [], d => ([], d)
  | dump :: rest, d =>
    match ingest options now dump d with
    | (.ok _, d) => ingestEach options (now + 1) rest d
    | (.error failure, d) =>
      let (failed, d) := ingestEach options (now + 1) rest d
      ((dump, failure) :: failed, d)

theorem HasTables.ingest {d d' : Database} (h : d.HasTables) {options : IngestOptions} {now : Nat}
    {dump : DumpFile} {outcome : Except Failure IngestStats}
    (hd : Database.ingest options now dump d = (outcome, d')) : d'.HasTables := by
  cases outcome with
  | error failure =>
    rw [changing_error hd]
    exact h
  | ok stats =>
    obtain ⟨_, _, _, _, _, _, hd'⟩ := (ingest_ok_iff h).mp hd
    rw [hd']
    exact h.withStore _

theorem HasTables.ingestEach {d : Database} (h : d.HasTables) (options : IngestOptions) (now : Nat)
    (dumps : List DumpFile) : (ingestEach options now dumps d).2.HasTables := by
  induction dumps generalizing d now with
  | nil => exact h
  | cons dump rest ih =>
    rcases hd : Database.ingest options now dump d with ⟨outcome, d'⟩
    have hrest := ih (h.ingest hd) (now + 1)
    unfold Database.ingestEach
    rw [hd]
    cases outcome <;> exact hrest

/-- A file with tables is not empty. -/
theorem HasTables.ne_empty {d : Database} (h : d.HasTables) : d ≠ .empty := by
  rintro rfl
  have hrows : Database.empty.needRows = .error .database := by decide
  cases h.rows.symm.trans hrows

/-- The index without the dumps that are recorded and are not among those found. -/
def pruned (dumps : List DumpFile) (d : Database) : Database :=
  { d with
    store := (d.store.deleteDumps (d.store.vanished (dumps.map DumpFile.path)).toList).1 }

/-- The index after a run that has found dumps and chosen some of them. -/
def updated (options : IngestOptions) (now : Nat) (chosen dumps : List DumpFile)
    (removesVanished : Bool) (d : Database) : Database :=
  let after := (ingestEach options now chosen d).2
  if removesVanished then after.pruned dumps else after

end Database

namespace Program.Ingest

variable {t : FileTree} {path : String} {o : FileTree.Opening} {d d' : Database}

/-- How the failure of a dump is reported. -/
def report (failed : DumpFile × Failure) : String :=
  "✗ " ++ failed.1.path ++ ": " ++ failed.2.message

/-- What is reported of a dump. -/
def reports (dump : DumpFile) : Except Failure IngestStats → List String
  | .ok _ => []
  | .error failure => [report (dump, failure)]

section Steps

variable {options : IngestOptions} {now : Nat} {dump : DumpFile}

theorem does_takeIn (tally : Tally) {outcome : Except Failure IngestStats} (h : t.Holds path o d)
    (hd : Database.ingest options now dump d = (outcome, d')) :
    ∃ after, Does (takeIn path options now dump tally) t after (t.set o.place (.file (.index d')))
      (reports dump outcome) := by
  have hattempt := does_attempt (h.onIndex_eq (Database.ingest options now dump))
  rw [hd] at hattempt
  cases outcome with
  | ok stats =>
    exact ⟨_, hattempt.andThen ((does_inform _ _).andThen (does_pure _ _))⟩
  | error failure =>
    exact ⟨_, hattempt.andThen ((does_record_error _ _).bind (does_pure _ _))⟩

/-- The loop over the dumps. -/
theorem does_takeInAll (h : t.Holds path o d) (ht : d.HasTables) (options : IngestOptions)
    (now total place : Nat) (dumps : List DumpFile) (tally : Tally) : ∃ after,
      Does (takeInAll path options now total place dumps tally) t after
        (t.set o.place (.file (.index (Database.ingestEach options (now + place) dumps d).2)))
        ((Database.ingestEach options (now + place) dumps d).1.map report) := by
  induction dumps generalizing t d place tally with
  | nil =>
    refine ⟨tally, ?_⟩
    show Does _ t tally (t.set o.place (.file (.index d))) []
    rw [h.set_self ht.ne_empty]
    exact does_pure t tally
  | cons dump rest ih =>
    rcases hd : Database.ingest options (now + place) dump d with ⟨outcome, d'⟩
    obtain ⟨next, hnext⟩ := does_takeIn tally h hd
    obtain ⟨after, hafter⟩ := ih (h.set d') (ht.ingest hd) (place + 1) next
    rw [FileTree.set_set] at hafter
    refine ⟨after, ?_⟩
    unfold takeInAll Database.ingestEach
    rw [hd]
    refine (does_inform t _).andThen ?_
    cases outcome <;> exact hnext.bind hafter

/-- Removing what has vanished. -/
theorem does_removeVanished {request : Request} {dumps : List DumpFile} (h : t.Holds path o d)
    (ht : d.HasTables) (hroot : t.isDirectory request.dumpPath = true)
    (hroom : (d.pruned dumps).store.rows.length ≤ Store.maxRows) : ∃ removed,
      Does (removeVanished request path dumps) t removed
        (t.set o.place (.file (.index
          (if request.removesVanished then d.pruned dumps else d)))) [] := by
  have hself := h.set_self ht.ne_empty
  have hread : t.onIndex path (Database.reading fun d => d.vanished (dumps.map DumpFile.path)) =
      (.ok (d.store.vanished (dumps.map DumpFile.path)), t) := by
    have hvanished : d.vanished (dumps.map DumpFile.path) =
        .ok (d.store.vanished (dumps.map DumpFile.path)) := by
      unfold Database.vanished
      rw [ht.dumps]
      rfl
    rw [h.onIndex_eq, Database.reading, hvanished, hself]
  have hdelete : t.onIndex path
      (Database.deleteDumps (d.store.vanished (dumps.map DumpFile.path)).toList) =
      (.ok (d.store.deleteDumps (d.store.vanished (dumps.map DumpFile.path)).toList).2,
        t.set o.place (.file (.index (d.pruned dumps)))) := by
    rw [h.onIndex_eq, Database.deleteDumps_eq ht hroom]
    rfl
  unfold removeVanished
  refine Exists.imp (fun removed => (does_files t).andThen) ?_
  rw [if_pos hroot]
  refine Exists.imp (fun removed => (does_carryOut hread).andThen) ?_
  split
  · -- nothing has vanished, so that it does not matter what was asked for
    rename_i hempty
    have hnone : (d.store.vanished (dumps.map DumpFile.path)).toList = [] := by
      simpa [SortedSet.isEmpty] using hempty
    have hstay : (if request.removesVanished then d.pruned dumps else d) = d := by
      unfold Database.pruned
      rw [hnone]
      split <;> rfl
    rw [hstay, hself]
    exact ⟨0, does_pure t 0⟩
  · split
    · exact ⟨_, (does_inform t _).andThen (does_carryOut hdelete)⟩
    · rw [hself]
      exact ⟨0, (does_inform t _).andThen (does_pure t 0)⟩

end Steps

/-- **A run that has found the dumps of a directory** and is not forced. -/
theorem does_update (call : Invocation) {settings : Settings} {request : Request}
    {dumps chosen : List DumpFile} {options : IngestOptions} (h : t.Holds path o d)
    (ht : d.HasTables) (hroot : t.isDirectory request.dumpPath = true)
    (hunforced : request.isForced = false)
    (hchosen : chosen = (Dump.classify dumps d.store.hashes).new ++
      (Dump.classify dumps d.store.hashes).modified)
    (hoptions : options = optionsOf settings request.subjects)
    (hroom : ((Database.ingestEach options (call.now + 1) chosen d).2.pruned
      dumps).store.rows.length ≤ Store.maxRows) :
    Does (update call settings request path dumps) t ()
      (t.set o.place (.file (.index
        (d.updated options (call.now + 1) chosen dumps request.removesVanished))))
      ((Database.ingestEach options (call.now + 1) chosen d).1.map report) := by
  have hread : t.onIndex path (Database.reading Database.hashes) = (.ok d.store.hashes, t) := by
    have hhashes : d.hashes = .ok d.store.hashes := by
      unfold Database.hashes
      rw [ht.dumps]
      rfl
    rw [h.onIndex_eq, Database.reading, hhashes, h.set_self ht.ne_empty]
  obtain ⟨tally, htaken⟩ := does_takeInAll h ht options call.now chosen.length 1 chosen {}
  have hroot' : (t.set o.place (.file (.index
      (Database.ingestEach options (call.now + 1) chosen d).2))).isDirectory request.dumpPath =
        true := by
    rw [(FileTree.sameDirectories_set h.hasPlace _).isDirectory, hroot]
  obtain ⟨removed, hremoved⟩ :=
    does_removeVanished (h.set _) (ht.ingestEach options (call.now + 1) chosen) hroot' hroom
  rw [FileTree.set_set] at hremoved
  unfold update
  refine (does_carryOut hread).andThen ?_
  dsimp only
  rw [hunforced, if_neg Bool.false_ne_true, if_neg Bool.false_ne_true, ← hchosen, ← hoptions]
  refine (does_inform t _).andThen ?_
  rw [← List.append_nil (List.map report _)]
  refine htaken.bind (hremoved.andThen ?_)
  -- the summary
  iterate 8 refine (does_inform _ _).andThen ?_
  have hend (t : FileTree) : Does (if 0 < tally.errors then
      record .warn "Some dumps failed to ingest. Check logs above for details." else pure ())
      t () t [] := by
    split
    · exact does_record rfl t _
    · exact does_pure t ()
  split
  · exact (does_inform _ _).andThen (hend _)
  · exact hend _

/-- The same run, with the dumps still to be found. -/
theorem does_refresh {call : Invocation} {settings : Settings} {request : Request}
    {dumps : List DumpFile} {errors : List String} {t' : FileTree}
    (hfound : Dump.discover t request.dumpPath = .ok dumps) (hsome : dumps ≠ [])
    (h : Does (update call settings request path dumps) t () t' errors) :
    Does (refresh call settings request path) t () t' errors := by
  unfold refresh
  refine (does_files t).andThen ?_
  rw [hfound]
  refine (does_pure t dumps).andThen ?_
  rw [if_neg (by simpa using hsome)]
  exact h

end Program.Ingest

end GraphAnswers
