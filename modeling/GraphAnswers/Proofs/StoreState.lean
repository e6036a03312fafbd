import GraphAnswers.Index.Stored
import GraphAnswers.Proofs.Intake
import Mathlib.Algebra.Order.Ring.Nat
import Mathlib.Data.List.Perm.Subperm
/-!
# What the state of a store tells of its rows

The state of a store is three numbers: of dumps, of rows, and the time of the last dump.  They are
few, but times are not used twice.  If a store has come from another one by taking dumps in, at
later times, and by removing dumps, and if both have the same state, then no dump was taken in or
removed that still makes a difference, and both have the same rows (`Store.same_rows`).
-/
namespace GraphAnswers.Store

/-- **A tidy store**: no dump is recorded twice, and every row belongs to a recorded dump. -/
structure Tidy (s : Store) : Prop where
  distinct : (s.dumps.map DumpRecord.id).Nodup
  owned : ∀ row ∈ s.rows, ∃ e ∈ s.dumps, e.id = row.dump
  room : s.rows.length ≤ maxRows

theorem tidy_empty : empty.Tidy where
  distinct := List.nodup_nil
  owned row hrow := by cases hrow
  room := Nat.zero_le _

/-- **A store that is in order** at a time: it is tidy, and every record counts its rows and was
made before. -/
structure Sound (s : Store) (time : Nat) : Prop extends s.Tidy where
  counted : ∀ e ∈ s.dumps,
    e.tripleCount = (s.rows.filter fun row => decide (row.dump = e.id)).length
  earlier : ∀ e ∈ s.dumps, e.ingestedAt < time

theorem sound_empty (time : Nat) : empty.Sound time where
  toTidy := tidy_empty
  counted e he := by cases he
  earlier e he := by cases he

/-! ### The state -/

/-- The counts of distinct dumps add up to the number of the rows that are of one of them. -/
theorem sum_length_filter {ids : List String} (h : ids.Nodup) (rows : List Row) :
    (ids.map fun id => (rows.filter fun row => decide (row.dump = id)).length).sum =
      (rows.filter fun row => decide (row.dump ∈ ids)).length := by
  induction ids with
  | nil => simp
  | cons id ids ih =>
    obtain ⟨hnot, hnodup⟩ := List.nodup_cons.mp h
    have hsplit := List.length_eq_length_filter_add
      (l := rows.filter fun row => decide (row.dump ∈ id :: ids)) fun row => decide (row.dump = id)
    have hown : ((rows.filter fun row => decide (row.dump ∈ id :: ids)).filter
        fun row => decide (row.dump = id)) = rows.filter fun row => decide (row.dump = id) := by
      rw [List.filter_filter]
      refine List.filter_congr fun row _ => ?_
      by_cases hrow : row.dump = id <;> simp [hrow]
    have hothers : ((rows.filter fun row => decide (row.dump ∈ id :: ids)).filter
        fun row => !decide (row.dump = id)) = rows.filter fun row => decide (row.dump ∈ ids) := by
      rw [List.filter_filter]
      refine List.filter_congr fun row _ => ?_
      by_cases hrow : row.dump = id <;> simp [hrow, hnot]
    rw [hown, hothers] at hsplit
    rw [List.map_cons, List.sum_cons, ih hnodup, hsplit]

theorem sumWithin_eq {counts : List Nat} {total : Nat}
    (h : total + counts.sum ≤ maxRows) :
    sumWithin total (counts.map fun n : Nat => (n : Int)) =
      some ((total + counts.sum : Nat) : Int) := by
  induction counts generalizing total with
  | nil => rfl
  | cons n counts ih =>
    rw [List.sum_cons] at h ⊢
    rw [List.map_cons, sumWithin]
    unfold maxRows at h ih
    rw [if_pos ⟨by unfold maxCount; omega, by unfold maxCount; omega⟩]
    have hnext : (total : Int) + n = ((total + n : Nat) : Int) := by omega
    rw [hnext, ih (by omega), Nat.add_assoc]

/-- **The state of a store that is in order** can be had, and it counts all rows. -/
theorem Sound.state_eq {s : Store} {time : Nat} (h : s.Sound time) :
    s.state = .ok {
      dumps := s.dumps.length
      triples := s.rows.length
      lastIngested := (s.dumps.map DumpRecord.ingestedAt).max? } := by
  have hcounts : s.dumps.map DumpRecord.tripleCount = ((s.dumps.map DumpRecord.id).map fun id =>
      (s.rows.filter fun row => decide (row.dump = id)).length).map fun n : Nat => (n : Int) := by
    rw [List.map_map, List.map_map]
    exact List.map_congr_left h.counted
  have hall : (s.rows.filter fun row => decide (row.dump ∈ s.dumps.map DumpRecord.id)) = s.rows := by
    refine List.filter_eq_self.mpr fun row hrow => decide_eq_true ?_
    obtain ⟨e, he, hid⟩ := h.owned row hrow
    exact hid ▸ List.mem_map_of_mem he
  have hsum := sum_length_filter h.distinct s.rows
  rw [hall] at hsum
  have hroom := h.room
  unfold Store.state
  rw [hcounts, ← Int.natCast_zero, sumWithin_eq (by omega), Nat.zero_add, hsum]

/-! ### A store and what has come of it -/

/-- Whether a store agrees with an earlier one on each of its dumps that was taken in before a
time. -/
structure Tracks (seen current : Store) (time : Nat) : Prop where
  records : ∀ e ∈ current.dumps, e.ingestedAt < time → e ∈ seen.dumps
  rows : ∀ e ∈ current.dumps, e.ingestedAt < time →
    ∀ t, Row.mk t e.id ∈ current.rows ↔ Row.mk t e.id ∈ seen.rows

theorem tracks_refl (s : Store) (time : Nat) : s.Tracks s time :=
  ⟨fun _ he _ => he, fun _ _ _ _ => Iff.rfl⟩

variable {seen current : Store} {time now : Nat}

/-- If the last dump of a store was taken in when the last one of a store that was in order at a
time was, all its dumps were taken in before the time. -/
theorem Sound.all_earlier (h : seen.Sound time)
    (hmax : (seen.dumps.map DumpRecord.ingestedAt).max? =
      (current.dumps.map DumpRecord.ingestedAt).max?) :
    ∀ e ∈ current.dumps, e.ingestedAt < time := by
  intro e he
  have hmem := List.mem_map_of_mem (f := DumpRecord.ingestedAt) he
  cases hlast : (current.dumps.map DumpRecord.ingestedAt).max? with
  | none =>
    rw [List.max?_eq_none_iff.mp hlast] at hmem
    cases hmem
  | some last =>
    rw [hlast] at hmax
    obtain ⟨old, hold, rfl⟩ := List.mem_map.mp (List.max?_eq_some_iff.mp hmax).1
    exact Nat.lt_of_le_of_lt ((List.max?_eq_some_iff.mp hlast).2 _ hmem) (h.earlier old hold)

/-- Stores with one state took all their dumps in before a time at which one of them was in order,
if the other has come of it; and they have the same records. -/
theorem perm_dumps (hseen : seen.Sound time) (hcurrent : current.Sound now)
    (h : seen.Tracks current time) (hstate : seen.state = current.state) :
    (∀ e ∈ current.dumps, e.ingestedAt < time) ∧ current.dumps.Perm seen.dumps := by
  rw [hseen.state_eq, hcurrent.state_eq, Except.ok.injEq, IndexState.mk.injEq] at hstate
  obtain ⟨hcount, _, hlast⟩ := hstate
  have hearlier := hseen.all_earlier hlast
  -- no record is new, and there are as many as before
  exact ⟨hearlier, (List.subperm_of_subset hcurrent.distinct.of_map fun e he =>
    h.records e he (hearlier e he)).perm_of_length_le (by omega)⟩

/-- **Stores with one state have the same rows**, if one has come of the other. -/
theorem same_rows (hseen : seen.Sound time) (hcurrent : current.Sound now)
    (h : seen.Tracks current time) (hstate : seen.state = current.state) (row : Row) :
    row ∈ current.rows ↔ row ∈ seen.rows := by
  obtain ⟨hearlier, hperm⟩ := perm_dumps hseen hcurrent h hstate
  constructor
  · intro hrow
    obtain ⟨e, he, hid⟩ := hcurrent.owned row hrow
    have := h.rows e he (hearlier e he) row.triple
    rw [hid] at this
    exact this.mp hrow
  · intro hrow
    obtain ⟨e, he, hid⟩ := hseen.owned row hrow
    have hin := hperm.mem_iff.mpr he
    have := h.rows e hin (hearlier e hin) row.triple
    rw [hid] at this
    exact this.mpr hrow

/-- A store answers by what rows it has. -/
theorem index_congr (h : ∀ row, row ∈ current.rows ↔ row ∈ seen.rows) :
    current.index = seen.index := by
  have hobjects (predicate subject : String) :
      current.selectObjects predicate subject = seen.selectObjects predicate subject :=
    SortedSet.ext fun a => by simp [selectObjects, h]
  have hsubjects (predicate object : String) :
      current.selectSubjects predicate object = seen.selectSubjects predicate object :=
    SortedSet.ext fun a => by simp [selectSubjects, h]
  unfold index
  simp only [hobjects, hsubjects]

/-! ### What keeps a store in order -/

section Changes

variable {s : Store} {r : DumpRecord} {ts : List Triple}

theorem Tidy.withDump (h : s.Tidy) (hroom : (s.withDump r ts).rows.length ≤ maxRows) :
    (s.withDump r ts).Tidy := by
  refine ⟨nodup_ids_putRecord (s.replaceTriples r.id ts) r h.distinct, fun row hrow => ?_, hroom⟩
  rcases (mem_rows_withDump s r ts).mp hrow with ⟨hold, hne⟩ | ⟨hid, _⟩
  · obtain ⟨e, he, hid⟩ := h.owned row hold
    exact ⟨e, (mem_dumps_withDump s r ts).mpr (.inr ⟨he, hid ▸ hne⟩), hid⟩
  · exact ⟨r, (mem_dumps_withDump s r ts).mpr (.inl rfl), hid.symm⟩

theorem Sound.withDump (h : s.Sound time) (hcount : r.tripleCount = ts.eraseDups.length)
    (hlate : time ≤ r.ingestedAt) (hroom : (s.withDump r ts).rows.length ≤ maxRows) :
    (s.withDump r ts).Sound (r.ingestedAt + 1) := by
  refine ⟨h.toTidy.withDump hroom, fun e he => ?_, fun e he => ?_⟩
  · rcases (mem_dumps_withDump s r ts).mp he with rfl | ⟨he, hne⟩
    · rw [ownRows_withDump, List.length_map, hcount]
    · rw [filter_rows_withDump s r ts fun t => by simpa using Ne.symm hne, h.counted e he]
  · rcases (mem_dumps_withDump s r ts).mp he with rfl | ⟨he, _⟩
    · exact Nat.lt_succ_self _
    · exact Nat.lt_succ_of_lt (Nat.lt_of_lt_of_le (h.earlier e he) hlate)

/-- Taking a dump in later changes nothing about the other dumps. -/
theorem Tracks.withDump (h : seen.Tracks s time) (hlate : time ≤ r.ingestedAt) :
    seen.Tracks (s.withDump r ts) time := by
  refine ⟨fun e he hlt => ?_, fun e he hlt t => ?_⟩
  · rcases (mem_dumps_withDump s r ts).mp he with rfl | ⟨he, _⟩
    · omega
    · exact h.records e he hlt
  · rcases (mem_dumps_withDump s r ts).mp he with rfl | ⟨he, hne⟩
    · omega
    · rw [mem_rows_withDump, ← h.rows e he hlt t]
      simp [hne]

theorem mem_dumps_deleteDump {path : String} {e : DumpRecord} :
    e ∈ (s.deleteDump path).1.dumps ↔ e ∈ s.dumps ∧ e.id ≠ dumpId path := by
  show e ∈ s.dumps.filter _ ↔ _
  rw [List.mem_filter, decide_eq_true_eq]

theorem mem_rows_deleteDump {path : String} {row : Row} :
    row ∈ (s.deleteDump path).1.rows ↔ row ∈ s.rows ∧ row.dump ≠ dumpId path := by
  show row ∈ s.rows.filter _ ↔ _
  rw [List.mem_filter, decide_eq_true_eq]

theorem Tidy.deleteDump (h : s.Tidy) (path : String) : (s.deleteDump path).1.Tidy := by
  refine ⟨h.distinct.sublist (List.filter_sublist.map _), fun row hrow => ?_,
    Nat.le_trans (List.length_filter_le _ _) h.room⟩
  obtain ⟨hrow, hne⟩ := mem_rows_deleteDump.mp hrow
  obtain ⟨e, he, hid⟩ := h.owned row hrow
  exact ⟨e, mem_dumps_deleteDump.mpr ⟨he, hid ▸ hne⟩, hid⟩

theorem filter_rows_deleteDump {path : String} {p : Row → Bool}
    (h : ∀ t, p ⟨t, dumpId path⟩ = false) :
    (s.deleteDump path).1.rows.filter p = s.rows.filter p := by
  show (s.rows.filter fun row => decide (row.dump ≠ dumpId path)).filter p = _
  rw [List.filter_filter]
  refine List.filter_congr fun row _ => ?_
  by_cases hrow : row.dump = dumpId path
  · obtain ⟨t, id⟩ := row
    subst hrow
    simp [h t]
  · simp [hrow]

theorem Sound.deleteDump (h : s.Sound time) (path : String) : (s.deleteDump path).1.Sound time := by
  refine ⟨h.toTidy.deleteDump path, fun e he => ?_,
    fun e he => h.earlier e (mem_dumps_deleteDump.mp he).1⟩
  obtain ⟨he, hne⟩ := mem_dumps_deleteDump.mp he
  rw [h.counted e he, filter_rows_deleteDump fun t => by simpa using Ne.symm hne]

theorem Tracks.deleteDump (h : seen.Tracks s time) (path : String) :
    seen.Tracks (s.deleteDump path).1 time := by
  refine ⟨fun e he hlt => h.records e (mem_dumps_deleteDump.mp he).1 hlt, fun e he hlt t => ?_⟩
  obtain ⟨he, hne⟩ := mem_dumps_deleteDump.mp he
  rw [mem_rows_deleteDump, ← h.rows e he hlt t]
  simp [hne]

theorem Tidy.deleteDumps (h : s.Tidy) (paths : List String) : (s.deleteDumps paths).1.Tidy := by
  induction paths generalizing s with
  | nil => exact h
  | cons path rest ih => exact ih (h.deleteDump path)

theorem Sound.deleteDumps (h : s.Sound time) (paths : List String) :
    (s.deleteDumps paths).1.Sound time := by
  induction paths generalizing s with
  | nil => exact h
  | cons path rest ih => exact ih (h.deleteDump path)

theorem Tracks.deleteDumps (h : seen.Tracks s time) (paths : List String) :
    seen.Tracks (s.deleteDumps paths).1 time := by
  induction paths generalizing s with
  | nil => exact h
  | cons path rest ih => exact ih (h.deleteDump path)

end Changes

end GraphAnswers.Store
