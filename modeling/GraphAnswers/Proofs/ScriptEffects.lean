import GraphAnswers.Migration
/-!
# What a script may do

What comes of a script is for the database engine to say, so what is proved about migrations rests on
what their scripts leave alone: the transaction in which they are carried out and the record of
migrations (`Migration.Execution.Contains`), or the rows and the records of dumps
(`Migration.Execution.LeavesStore`).  A migration with a contained script takes effect as a whole or
not at all (`Migration.apply_error`).  Scripts that create tables and secondary indexes, as those of an
installation, leave all of this alone (`Migration.contains_ofStatements`).
-/
namespace GraphAnswers

/-! ### Tables that stay -/

namespace Schema

/-- Whether every table of a schema is in another one, found under the same names. -/
def Keeps (before after : Schema) : Prop :=
  ∀ name table, before.table? name = some table → after.table? name = some table

theorem Keeps.refl (s : Schema) : Keeps s s := fun _ _ h => h

theorem Keeps.trans {s t u : Schema} (h : Keeps s t) (h' : Keeps t u) : Keeps s u :=
  fun name table hs => h' name table (h name table hs)

theorem Keeps.hasColumns {s t : Schema} (h : Keeps s t) {name : String} {columns : List String}
    (hs : s.hasColumns name columns = true) : t.hasColumns name columns = true := by
  unfold Schema.hasColumns at hs ⊢
  obtain ⟨table, htable, hcolumns⟩ := (Option.any_eq_true _ _).mp hs
  rw [h name table htable]
  exact hcolumns

theorem keeps_apply {s t : Schema} {statement : Statement} (h : s.apply statement = some t) :
    Keeps s t := by
  cases statement with
  | createTable ifAbsent table =>
    replace h : s.createTable ifAbsent table = some t := h
    unfold createTable at h
    split at h
    · cases h
    split at h
    · split at h
      · cases h
        exact .refl s
      · cases h
    split at h
    · cases h
    · cases h
      intro name found hfound
      unfold table? at hfound ⊢
      rw [List.find?_append, hfound]
      rfl
  | createIndex ifAbsent name table columns =>
    replace h : s.createIndex ifAbsent name table columns = some t := h
    unfold createIndex at h
    split at h
    · cases h
    split at h
    · cases h
    split at h
    · split at h
      · cases h
        exact .refl s
      · cases h
    split at h
    · cases h
      exact .refl s
    · cases h

theorem keeps_applyAll {s t : Schema} {script : List Statement} (h : s.applyAll script = some t) :
    Keeps s t := by
  induction script generalizing s with
  | nil =>
    cases h
    exact .refl _
  | cons statement script ih =>
    obtain ⟨u, hu, hrest⟩ := Option.bind_eq_some_iff.mp h
    exact (keeps_apply hu).trans (ih hrest)

end Schema

namespace Migration

/-! ### What is left alone -/

namespace Execution

/-- **A script that leaves its transaction alone**: it does not end it, and where the transaction is
given up, nothing is left of the script. -/
structure LeavesTransaction (execute : Execution) (text : String) : Prop where
  failed : ∀ d saved, execute text d = .failed saved → saved = d
  succeeded : ∀ d saved unsaved, execute text d = .succeeded saved unsaved → saved = d
  not_ended : ∀ d saved, execute text d ≠ .ended saved

/-- **A script that leaves the record of migrations alone**: what is on it, and its table. -/
structure LeavesRecord (execute : Execution) (text : String) : Prop where
  entries : ∀ d saved unsaved, execute text d = .succeeded saved unsaved →
    unsaved.applied = d.applied
  table : ∀ d saved unsaved, execute text d = .succeeded saved unsaved →
    ∀ table, d.schema.table? recordTable = some table →
      unsaved.schema.table? recordTable = some table

/-- A script that touches neither its transaction nor the record of migrations. -/
structure Contains (execute : Execution) (text : String) : Prop
  extends execute.LeavesTransaction text, execute.LeavesRecord text

end Execution

/-- The files that may be left in the end. -/
def Outcome.files : Outcome → List Database
  | failed saved => [saved]
  | succeeded saved unsaved => [saved, unsaved]
  | ended saved => [saved]

/-- **A script that leaves the rows and the records of dumps alone**, whatever comes of it. -/
def Execution.LeavesStore (execute : Execution) (text : String) : Prop :=
  ∀ d, ∀ d' ∈ (execute text d).files, d'.store = d.store

/-! ### One migration -/

section Applying

variable {execute : Execution} {m : Migration} {d d' : Database}

theorem enter_eq_some_iff : m.enter d = some d' ↔
    d.schema.hasColumns recordTable ["version", "name"] = true ∧
      m.version ∉ d.applied.map Prod.fst ∧
      d' = { d with applied := d.applied ++ [(m.version, m.name)] } := by
  have hrecord : (d.applied.any (·.1 == m.version)) = true ↔ m.version ∈ d.applied.map Prod.fst := by
    simp
  unfold enter
  rw [Option.ite_none_right_eq_some, Option.some_inj, Bool.and_eq_true, Bool.not_eq_true',
    ← Bool.not_eq_true, hrecord, and_assoc]
  exact and_congr_right fun _ => and_congr_right fun _ => eq_comm

/-- **What becomes of a migration**: its script succeeds and it is put on record, or it fails, and
then nothing is left of it. -/
theorem apply_cases (h : execute.Contains m.text) (d : Database) :
    (∃ unsaved d', execute m.text d = .succeeded d unsaved ∧ m.enter unsaved = some d' ∧
      m.apply execute d = (.ok (), d')) ∨
    m.apply execute d = (.error .database, d) := by
  unfold apply
  cases hscript : execute m.text d with
  | failed saved =>
    obtain rfl := h.failed d saved hscript
    exact .inr rfl
  | ended saved => exact absurd hscript (h.not_ended d saved)
  | succeeded saved unsaved =>
    obtain rfl := h.succeeded d saved unsaved hscript
    dsimp only
    cases hentered : m.enter unsaved with
    | none => exact .inr rfl
    | some d' => exact .inl ⟨unsaved, d', rfl, hentered, rfl⟩

/-- **A migration takes effect as a whole or not at all.** -/
theorem apply_error (h : execute.Contains m.text) {failure : Failure}
    (hfails : m.apply execute d = (.error failure, d')) : d' = d := by
  obtain ⟨unsaved, after, _, _, hok⟩ | herror := apply_cases h d
  · cases hfails.symm.trans hok
  · cases hfails.symm.trans herror
    rfl

/-- What a migration leaves that succeeds. -/
theorem of_apply_ok (h : execute.Contains m.text) (hok : m.apply execute d = (.ok (), d')) :
    m.version ∉ d.applied.map Prod.fst ∧ d'.applied = d.applied ++ [(m.version, m.name)] ∧
      ∀ table, d.schema.table? recordTable = some table →
        d'.schema.table? recordTable = some table := by
  obtain ⟨unsaved, after, hscript, hentered, hafter⟩ | herror := apply_cases h d
  · cases hok.symm.trans hafter
    obtain ⟨_, hnew, rfl⟩ := enter_eq_some_iff.mp hentered
    rw [h.entries d d unsaved hscript] at hnew ⊢
    exact ⟨hnew, rfl, h.table d d unsaved hscript⟩
  · cases hok.symm.trans herror

/-- However a migration ends, it leaves one of the files that its script may leave; at most, it has
been put on record there. -/
theorem store_apply (h : execute.LeavesStore m.text) (d : Database) :
    (m.apply execute d).2.store = d.store := by
  have hfiles := h d
  have hentered {before after : Database} (he : m.enter before = some after) :
      after.store = before.store := by
    obtain ⟨_, _, rfl⟩ := enter_eq_some_iff.mp he
    rfl
  unfold apply
  cases hscript : execute m.text d with
  | failed saved =>
    rw [hscript] at hfiles
    exact hfiles saved List.mem_cons_self
  | succeeded saved unsaved =>
    rw [hscript] at hfiles
    dsimp only
    cases he : m.enter unsaved with
    | none => exact hfiles saved List.mem_cons_self
    | some after => exact (hentered he).trans (hfiles unsaved (by simp [Outcome.files]))
  | ended saved =>
    rw [hscript] at hfiles
    dsimp only
    cases he : m.enter saved with
    | none => exact hfiles saved List.mem_cons_self
    | some after => exact (hentered he).trans (hfiles saved List.mem_cons_self)

end Applying

/-! ### Scripts that create tables -/

section Statements

variable {statements? : String → Option (List Statement)}

theorem ofStatements_cases (text : String) (d : Database) :
    (∃ script schema, d.schema.applyAll script = some schema ∧
      Execution.ofStatements statements? text d = .succeeded d { d with schema }) ∨
    Execution.ofStatements statements? text d = .failed d := by
  unfold Execution.ofStatements
  cases hscript : (statements? text).bind d.schema.applyAll with
  | none => exact .inr rfl
  | some schema =>
    obtain ⟨script, _, hschema⟩ := Option.bind_eq_some_iff.mp hscript
    exact .inl ⟨script, schema, hschema, rfl⟩

theorem of_ofStatements_succeeded {text : String} {d saved unsaved : Database}
    (h : Execution.ofStatements statements? text d = .succeeded saved unsaved) :
    ∃ schema, d.schema.Keeps schema ∧ saved = d ∧ unsaved = { d with schema } := by
  obtain ⟨script, schema, hschema, hdone⟩ | hfailed := ofStatements_cases text d
  · cases hdone.symm.trans h
    exact ⟨schema, Schema.keeps_applyAll hschema, rfl, rfl⟩
  · cases hfailed.symm.trans h

/-- **To create tables and secondary indexes is to touch nothing else.** -/
theorem contains_ofStatements (text : String) :
    (Execution.ofStatements statements?).Contains text where
  failed d saved h := by
    obtain ⟨_, _, _, hdone⟩ | hfailed := ofStatements_cases text d
    · cases hdone.symm.trans h
    · cases hfailed.symm.trans h
      rfl
  succeeded d saved unsaved h := by
    obtain ⟨schema, _, rfl, rfl⟩ := of_ofStatements_succeeded h
    rfl
  not_ended d saved h := by
    obtain ⟨_, _, _, hdone⟩ | hfailed := ofStatements_cases text d
    · cases hdone.symm.trans h
    · cases hfailed.symm.trans h
  entries d saved unsaved h := by
    obtain ⟨schema, _, rfl, rfl⟩ := of_ofStatements_succeeded h
    rfl
  table d saved unsaved h := by
    obtain ⟨schema, hkept, rfl, rfl⟩ := of_ofStatements_succeeded h
    exact hkept recordTable

theorem leavesStore_ofStatements (text : String) :
    (Execution.ofStatements statements?).LeavesStore text := by
  intro d d' hd'
  obtain ⟨script, schema, _, hdone⟩ | hfailed := ofStatements_cases text d
  · rw [hdone] at hd'
    simp only [Outcome.files, List.mem_cons, List.not_mem_nil, or_false] at hd'
    rcases hd' with rfl | rfl <;> rfl
  · rw [hfailed] at hd'
    cases List.mem_singleton.mp hd'
    rfl

end Statements

end Migration
end GraphAnswers
