import GraphAnswers.Proofs.Resuming
import Mathlib.Data.List.Count
/-!
# Migrations that are executed once

A migration counts as applied by its name, but it is the version that must not be on record when it
is recorded.  As the name tells the version, what is executed over any number of runs, some of which
may fail, never has one name twice (`Migration.After.recorded`), and once a run comes to its end,
every name in the directory has been executed (`Migration.executed_once`).  The scripts have to leave
the record alone: one that puts the name of another on it has that one skipped
(`Migration.recorded_by_other_skipped`).

The name of a script is that of its file without the extension `.sql`, as often as it is there.  So
`1_a.sql` and `1_a.sql.sql` have one name, and of scripts that share a name only one is executed; the
next run takes the others for applied (`Migration.second_of_one_name_skipped`).
-/
namespace GraphAnswers.Migration

/-! ### What one run executes -/

/-- The migrations that succeed when they are applied one after another, until one fails. -/
def succeeding (execute : Execution) : List Migration → Database → List Migration
  | [], _ => []
  | m :: rest, d =>
    match m.apply execute d with
    | (.ok (), d) => m :: succeeding execute rest d
    | (.error _, _) => []

/-- The migrations that a run executes with success. -/
def executed (execute : Execution) (migrations : Except Failure (List Migration)) (d : Database) :
    List Migration :=
  match withRecord? d, migrations with
  | some start, .ok known => succeeding execute (pending known d) start
  | _, _ => []

/-- What is put on record of a migration. -/
def key (m : Migration) : Nat × String := (m.version, m.name)

section OneRun

variable {execute : Execution} {migrations known : List Migration} {d d' : Database}

/-- What a run leaves is what the succeeding migrations make of the file. -/
theorem applyEach_succeeding (hscripts : ∀ m ∈ migrations, execute.Contains m.text)
    (d : Database) : applyEach execute (succeeding execute migrations d) d =
      (.ok (), (applyEach execute migrations d).2) := by
  induction migrations generalizing d with
  | nil => rfl
  | cons m rest ih =>
    obtain ⟨hfirst, hothers⟩ := List.forall_mem_cons.mp hscripts
    unfold succeeding
    rw [applyEach]
    rcases hm : m.apply execute d with ⟨failure | ⟨⟨⟩⟩, next⟩
    · -- nothing is left of the one that fails
      rw [apply_error hfirst hm]
      rfl
    · exact applyEach_cons_ok_iff.mpr ⟨next, hm, ih hothers next⟩

theorem succeeding_sublist (migrations : List Migration) (d : Database) :
    (succeeding execute migrations d).Sublist migrations := by
  induction migrations generalizing d with
  | nil => exact .slnil
  | cons m rest ih =>
    unfold succeeding
    split
    · exact (ih _).cons_cons m
    · exact List.nil_sublist _

/-- If none fails, all succeed. -/
theorem succeeding_eq_self (h : (applyEach execute migrations d).1 = .ok ()) :
    succeeding execute migrations d = migrations := by
  induction migrations generalizing d with
  | nil => rfl
  | cons m rest ih =>
    unfold applyEach at h
    unfold succeeding
    rcases hm : m.apply execute d with ⟨failure | ⟨⟨⟩⟩, next⟩
    · rw [hm] at h
      cases h
    · rw [hm] at h
      exact congrArg (m :: ·) (ih h)

/-- Migrations that all succeed have different versions, none of which was on record. -/
theorem fresh_applyEach (hscripts : ∀ m ∈ migrations, execute.Contains m.text)
    (h : applyEach execute migrations d = (.ok (), d')) :
    (migrations.map version).Nodup ∧ ∀ m ∈ migrations, m.version ∉ d.applied.map Prod.fst := by
  induction migrations generalizing d with
  | nil => exact ⟨List.nodup_nil, fun m hm => absurd hm List.not_mem_nil⟩
  | cons m rest ih =>
    obtain ⟨hfirst, hothers'⟩ := List.forall_mem_cons.mp hscripts
    obtain ⟨next, hm, hrest⟩ := applyEach_cons_ok_iff.mp h
    obtain ⟨hnew, hrecord, _⟩ := of_apply_ok hfirst hm
    obtain ⟨hdistinct, hlater⟩ := ih hothers' hrest
    -- the first is on record when the others are recorded
    have hothers (other : Migration) (hother : other ∈ rest) :
        other.version ∉ d.applied.map Prod.fst ∧ other.version ≠ m.version := by
      have hnot := hlater other hother
      rw [hrecord, List.map_append, List.mem_append, not_or] at hnot
      exact ⟨hnot.1, fun hsame => hnot.2 (List.mem_singleton.mpr hsame)⟩
    constructor
    · refine List.nodup_cons.mpr ⟨fun hmem => ?_, hdistinct⟩
      obtain ⟨other, hother, hsame⟩ := List.mem_map.mp hmem
      exact (hothers other hother).2 hsame
    · exact List.forall_mem_cons.mpr ⟨hnew, fun other hother => (hothers other hother).1⟩

/-- **What a run executes**: migrations of the directory that were not on record, neither by name
nor by version, and of different versions; they are on record afterwards. -/
structure Executes (known : List Migration) (before : Database) (new : List Migration)
    (after : Database) : Prop where
  known : ∀ m ∈ new, m ∈ known ∧ m.name ∉ before.applied.map Prod.snd
  distinct : (new.map version).Nodup
  fresh : ∀ m ∈ new, m.version ∉ before.applied.map Prod.fst
  record : after.applied = before.applied ++ new.map key

theorem executes_nil (h : d'.applied = d.applied) : Executes known d [] d' where
  known m hm := absurd hm List.not_mem_nil
  distinct := List.nodup_nil
  fresh m hm := absurd hm List.not_mem_nil
  record := by rw [h, List.map_nil, List.append_nil]

theorem NoneApplied.applied_eq (h : NoneApplied d d') : d'.applied = d.applied := by
  rcases h with rfl | ⟨schema, _, rfl⟩ <;> rfl

theorem executes_run (hscripts : ∀ m ∈ known, execute.Contains m.text) (d : Database) :
    Executes known d (executed execute (.ok known) d) (run execute (.ok known) d).2 := by
  have hpending (m : Migration) (hm : m ∈ pending known d) : execute.Contains m.text :=
    hscripts m (List.mem_filter.mp hm).1
  unfold executed
  cases hstart : withRecord? d with
  | none =>
    obtain ⟨_, _, hnone⟩ := @run_refused execute d (.ok known) (.inl hstart)
    exact executes_nil hnone.applied_eq
  | some start =>
    dsimp only
    rw [run_eq hstart]
    have hall := applyEach_succeeding hpending start
    have hsub : succeeding execute (pending known d) start ⊆ pending known d :=
      (succeeding_sublist _ _).subset
    have hsucceeding (m : Migration) (hm : m ∈ succeeding execute (pending known d) start) :
        execute.Contains m.text := hpending m (hsub hm)
    obtain ⟨hdistinct, hfresh⟩ := fresh_applyEach hsucceeding hall
    rw [applied_start hstart] at hfresh
    refine ⟨fun m hm => ?_, hdistinct, hfresh, ?_⟩
    · simpa [pending] using hsub hm
    · rw [(applied_applyEach hsucceeding hall).record, applied_start hstart]
      rfl

/-- A run that comes to its end executes all that is not on record. -/
theorem executed_eq_pending (h : (run execute (.ok known) d).1 = .ok ()) :
    executed execute (.ok known) d = pending known d := by
  unfold executed
  cases hstart : withRecord? d with
  | none =>
    obtain ⟨failure, hfails, _⟩ := @run_refused execute d (.ok known) (.inl hstart)
    cases hfails.symm.trans h
  | some start =>
    rw [run_eq hstart] at h
    exact succeeding_eq_self h

end OneRun

/-! ### Any number of runs -/

/-- **What may have become of a file**, and what has been executed on it: there were runs over one
directory, whatever came of them, and what else was done to the file left the record alone. -/
inductive After (execute : Execution) (migrations : Except Failure (List Migration))
    (start : Database) : List Migration → Database → Prop
  | start : After execute migrations start [] start
  | call {done : List Migration} {d : Database} (history : After execute migrations start done d) :
      After execute migrations start (done ++ executed execute migrations d)
        (run execute migrations d).2
  | change {done : List Migration} {d d' : Database}
      (history : After execute migrations start done d) (kept : d'.applied = d.applied) :
      After execute migrations start done d'

section Runs

variable {execute : Execution} {known done : List Migration} {start d : Database}

/-- What is executed on what an earlier execution has left. -/
theorem Executes.trans {new : List Migration} {d' : Database}
    (h : Executes known start done d) (h' : Executes known d new d') :
    Executes known start (done ++ new) d' where
  known := by
    refine List.forall_mem_append.mpr ⟨h.known, fun m hm => ⟨(h'.known m hm).1, ?_⟩⟩
    have hnot := (h'.known m hm).2
    rw [h.record, List.map_append, List.mem_append, not_or] at hnot
    exact hnot.1
  distinct := by
    rw [List.map_append, List.nodup_append]
    refine ⟨h.distinct, h'.distinct, fun version hdone other hnew => ?_⟩
    rintro rfl
    obtain ⟨m, hm, rfl⟩ := List.mem_map.mp hnew
    obtain ⟨earlier, hearlier, hsame⟩ := List.mem_map.mp hdone
    -- the earlier one is on record already
    refine h'.fresh m hm ?_
    rw [h.record, List.map_append, List.map_map, ← hsame]
    exact List.mem_append_right _ (List.mem_map_of_mem (f := Prod.fst ∘ key) hearlier)
  fresh := by
    refine List.forall_mem_append.mpr ⟨h.fresh, fun m hm hmem => h'.fresh m hm ?_⟩
    rw [h.record, List.map_append]
    exact List.mem_append_left _ hmem
  record := by rw [h'.record, h.record, List.map_append, List.append_assoc]

/-- **The invariant**: what has been executed is on record after what was there, was not there
before, and no version is executed twice. -/
theorem After.executes (h : After execute (.ok known) start done d)
    (hscripts : ∀ m ∈ known, execute.Contains m.text) : Executes known start done d := by
  induction h with
  | start => exact executes_nil rfl
  | @call done d _ ih => exact ih.trans (executes_run hscripts d)
  | change _ kept ih => exact ⟨ih.known, ih.distinct, ih.fresh, kept.trans ih.record⟩

/-- Where the name of a migration tells its version, no name is executed twice. -/
theorem Executes.nodup_names {new : List Migration} {after : Database}
    (h : Executes known start new after)
    (hversion : ∀ m ∈ known, versionOf? m.name = some m.version) : (new.map name).Nodup := by
  refine List.pairwise_map.mpr ((List.pairwise_map.mp h.distinct).imp_of_mem ?_)
  intro a b ha hb hne hname
  have hsame := (hversion a (h.known a ha).1).symm.trans
    ((congrArg versionOf? hname).trans (hversion b (h.known b hb).1))
  exact hne (Option.some.inj hsame)

/-- **When a run has come to its end**, each name in the directory has been executed once, or never
if it was on record to begin with. -/
theorem After.count_name (h : After execute (.ok known) start done d)
    (hscripts : ∀ m ∈ known, execute.Contains m.text)
    (hversion : ∀ m ∈ known, versionOf? m.name = some m.version)
    (hok : (run execute (.ok known) d).1 = .ok ()) {m : Migration} (hm : m ∈ known) :
    ((done ++ executed execute (.ok known) d).map name).count m.name =
      if m.name ∈ start.applied.map Prod.snd then 0 else 1 := by
  have hall := h.call.executes hscripts
  split
  · rename_i hthere
    refine List.count_eq_zero.mpr fun hmem => ?_
    obtain ⟨m', hm', hname⟩ := List.mem_map.mp hmem
    exact (hall.known m' hm').2 (hname ▸ hthere)
  · rename_i hnew
    refine List.count_eq_one_of_mem (hall.nodup_names hversion) ?_
    rw [List.map_append, List.mem_append]
    by_cases hon : m.name ∈ d.applied.map Prod.snd
    · -- it was recorded by an earlier run
      rw [(h.executes hscripts).record, List.map_append, List.map_map, List.mem_append] at hon
      exact .inl (hon.resolve_left hnew)
    · rw [executed_eq_pending hok]
      exact .inr (List.mem_map_of_mem (List.mem_filter.mpr ⟨hm, decide_eq_true hon⟩))

end Runs

/-- The migration that alone has its name is executed as often as the name. -/
theorem count_eq_count_name {migrations : List Migration} {m : Migration}
    (h : ∀ other ∈ migrations, other.name = m.name → other = m) :
    migrations.count m = (migrations.map name).count m.name := by
  unfold List.count
  rw [List.countP_map]
  refine List.countP_congr fun other hother => ?_
  rw [Function.comp_apply, beq_iff_eq, beq_iff_eq]
  exact ⟨congrArg name, h other hother⟩

/-- **Of the scripts that share a name, exactly one is executed, once.**  Over any number of runs over
a directory, of which some may have failed, and whatever the scripts do to anything but their
transactions and the record: whenever a run comes to its end, every script in the directory can be
read, and its name has been executed exactly once, by this run or an earlier one, unless it was on
record to begin with.  So a script that shares its name with no other one has itself been executed
exactly once. -/
theorem executed_once {execute : Execution} {files : FileTree} {directory : String}
    {start d : Database} {done : List Migration}
    (hcontained : ∀ known, load files directory = .ok known → ∀ m ∈ known, execute.Contains m.text)
    (h : After execute (load files directory) start done d)
    (hok : (run execute (load files directory) d).1 = .ok ()) :
    ∃ scripts, scripts? files directory = some scripts ∧ ∀ script ∈ scripts, ∃ m,
      ofFile script.1 script.2 = .ok m ∧
      ((done ++ executed execute (load files directory) d).map name).count m.name =
        (if m.name ∈ start.applied.map Prod.snd then 0 else 1) ∧
      ((∀ other ∈ scripts, nameOf other.1 = nameOf script.1 → other = script) →
        (done ++ executed execute (load files directory) d).count m =
          if m.name ∈ start.applied.map Prod.snd then 0 else 1) := by
  cases hload : load files directory with
  | error failure =>
    rw [hload] at hok
    obtain ⟨_, hfails, _⟩ := @run_refused execute d _ (.inr ⟨failure, rfl⟩)
    cases hfails.symm.trans hok
  | ok known =>
    have hscripts := hcontained known hload
    rw [hload] at h hok
    have hversion (m : Migration) (hm : m ∈ known) := versionOf?_name hload hm
    obtain ⟨scripts, hfound, hreadable, rfl⟩ := load_ok_iff.mp hload
    refine ⟨scripts, hfound, fun script hscript => ?_⟩
    obtain ⟨m, hm⟩ := exists_ofFile_iff.mpr (hreadable script hscript)
    have hknown : m ∈ inOrder (readAll scripts) :=
      mem_inOrder.mpr (mem_readAll.mpr ⟨script, hscript, hm⟩)
    have hcount := h.count_name hscripts hversion hok hknown
    refine ⟨m, hm, hcount, fun halone => ?_⟩
    rw [← hcount]
    refine count_eq_count_name fun other hother hname => ?_
    obtain ⟨script', hscript', hother'⟩ :=
      mem_readAll.mp (mem_inOrder.mp ((h.call.executes hscripts).known other hother).1)
    rw [(ofFile_ok_iff.mp hother').1, (ofFile_ok_iff.mp hm).1] at hname
    rw [halone script' hscript' hname, hm] at hother'
    exact (Except.ok.inj hother').symm

/-! ### Two scripts -/

/-- A directory with the scripts of migrations. -/
def filesOf (texts : List (String × Migration)) : FileTree :=
  texts.foldl (fun t s => t.set ["m", s.1] (.file (.octets (Text.octets s.2.text))))
    (FileTree.empty.set ["m"] .directory)

/-- Scripts that create two tables. -/
def twoTables : List (String × Migration) := [("1_a.sql", createA), ("2_b.sql", createB)]

theorem load_twoTables : load (filesOf twoTables) "m" = .ok [createA, createB] := by
  rw [load_of_texts twoTables rfl (by decide)]
  exact congrArg Except.ok (List.mergeSort_of_pairwise (by decide))

/-- A file that has one of the tables already. -/
def withB : Database where schema := { tables := [⟨"b", ["id"]⟩] }

/-- The first run stops at the table that is there; it is then dropped, and the run begun again. -/
theorem executed_once_twoTables : ∃ done,
    (∀ known, load (filesOf twoTables) "m" = .ok known →
      ∀ m ∈ known, executeTables.Contains m.text) ∧
    (run executeTables (load (filesOf twoTables) "m") withB).1 = .error .database ∧
    After executeTables (load (filesOf twoTables) "m") withB done withA ∧
    (run executeTables (load (filesOf twoTables) "m") withA).1 = .ok () ∧
    (done ++ executed executeTables (load (filesOf twoTables) "m") withA).count createB = 1 := by
  have hcontained : ∀ known, load (filesOf twoTables) "m" = .ok known →
      ∀ m ∈ known, executeTables.Contains m.text :=
    fun _ _ m _ => contains_ofStatements m.text
  have hrun : (run executeTables (.ok [createA, createB]) withB).1 = .error .database ∧
      (run executeTables (.ok [createA, createB]) withB).2.applied = withA.applied ∧
      (run executeTables (.ok [createA, createB]) withA).1 = .ok () := by
    decide +kernel
  rw [← load_twoTables] at hrun
  obtain ⟨hstops, hrecord, hok⟩ := hrun
  have hafter := After.start.call.change hrecord.symm
  obtain ⟨scripts, hscripts, hall⟩ := executed_once hcontained hafter hok
  have hfound : scripts? (filesOf twoTables) "m" = some (twoTables.map fun s =>
      (s.1, .file (.octets (Text.octets s.2.text)))) := rfl
  cases hfound.symm.trans hscripts
  obtain ⟨m, hm, _, halone⟩ := hall ("2_b.sql", .file (.octets (Text.octets createB.text)))
    (List.mem_map.mpr ⟨("2_b.sql", createB), by decide, rfl⟩)
  have hread : ofFile "2_b.sql" (.file (.octets (Text.octets createB.text))) = .ok createB :=
    ofFile_ok_iff.mpr ⟨by decide, by decide, _, rfl, Text.ofOctets?_octets _⟩
  cases hread.symm.trans hm
  exact ⟨_, hcontained, hstops, hafter, hok, halone (by decide +kernel)⟩

/-- A migration whose script puts another one on record. -/
def recordsB : Migration :=
  ⟨1, "1_a", "INSERT INTO schema_migrations (version, name) VALUES (2, '2_b');"⟩

/-- The execution of its script and of those that create tables. -/
def executeRecording : Execution := fun text d =>
  if text = recordsB.text then .succeeded d { d with applied := d.applied ++ [(2, "2_b")] }
  else executeTables text d

/-- A file with both on record, of which one has been executed. -/
def withRecordOfB : Database where
  schema := recorded.schema
  applied := [(2, "2_b"), (1, "1_a")]

/-- **A script that another one puts on record is skipped**: the first run stops there, and the next
one comes to its end without it. -/
theorem recorded_by_other_skipped :
    ¬executeRecording.Contains recordsB.text ∧
    After executeRecording (.ok [recordsB, createB]) .empty [recordsB] withRecordOfB ∧
    run executeRecording (.ok [recordsB, createB]) withRecordOfB = (.ok (), withRecordOfB) ∧
    withRecordOfB.schema.table? "b" = none := by
  have hrun : executed executeRecording (.ok [recordsB, createB]) .empty = [recordsB] ∧
      (run executeRecording (.ok [recordsB, createB]) .empty).2 = withRecordOfB := by
    decide +kernel
  obtain ⟨hfirst, hleft⟩ := hrun
  have hrecord : withRecord? withRecordOfB = some withRecordOfB := by decide
  have hnone : pending [recordsB, createB] withRecordOfB = [] := by decide
  have hagain : run executeRecording (.ok [recordsB, createB]) withRecordOfB =
      (.ok (), withRecordOfB) := by
    rw [run_eq hrecord, hnone]
    rfl
  have hafter : After executeRecording (.ok [recordsB, createB]) .empty _ _ := After.start.call
  rw [hfirst, hleft] at hafter
  refine ⟨fun h => ?_, hafter, hagain, by decide⟩
  have hsame := h.entries .empty _ _ (if_pos rfl)
  cases hsame

/-- A migration of the same name as another one. -/
def alsoA : Migration := ⟨1, "1_a", createB.text⟩

/-- Scripts that share a name. -/
def oneName : List (String × Migration) := [("1_a.sql", createA), ("1_a.sql.sql", alsoA)]

theorem load_oneName : load (filesOf oneName) "m" = .ok [createA, alsoA] := by
  rw [load_of_texts oneName rfl (by decide)]
  exact congrArg Except.ok (List.mergeSort_of_pairwise (by decide))

/-- **The second script of a name is skipped**: the run in which it fails records the first one, and
the next run comes to its end without it. -/
theorem second_of_one_name_skipped :
    load (filesOf oneName) "m" = .ok [createA, alsoA] ∧
    After executeTables (load (filesOf oneName) "m") .empty [createA] withA ∧
    run executeTables (load (filesOf oneName) "m") withA = (.ok (), withA) ∧
    executed executeTables (load (filesOf oneName) "m") withA = [] ∧
    withA.schema.table? "b" = none := by
  have hrun : executed executeTables (.ok [createA, alsoA]) .empty = [createA] ∧
      (run executeTables (.ok [createA, alsoA]) .empty).2 = withA ∧
      run executeTables (.ok [createA, alsoA]) withA = (.ok (), withA) ∧
      executed executeTables (.ok [createA, alsoA]) withA = [] := by
    decide +kernel
  rw [← load_oneName] at hrun
  obtain ⟨hfirst, hleft, hagain, hnone⟩ := hrun
  have hafter : After executeTables (load (filesOf oneName) "m") .empty _ _ := After.start.call
  rw [hfirst, hleft] at hafter
  exact ⟨load_oneName, hafter, hagain, hnone, by decide⟩

end GraphAnswers.Migration
