import GraphAnswers.Proofs.Upkeep
/-!
# What the state of an index tells

The state of an index file is three numbers, and dumps come and go.  It still tells the index from
whatever it was before: a dump that is taken in has a later time than all before, so the time of the
last dump comes back only when every dump of later times has been removed; what is left are dumps of
the earlier moment, each with its rows, and the number of dumps tells whether any of them is missing
(`Upkeep.state_tells`).
-/
namespace GraphAnswers

/-- The state of an index file is that of the index it holds. -/
theorem FileTree.indexState_eq {t : FileTree} {path : String} {d : Database}
    (hd : t.database? path = some d) :
    t.indexState path = if t.isFile path then d.state else .error (.indexUnavailable path) := by
  obtain ⟨o, ho, hplace⟩ := database?_eq_some_iff.mp hd
  unfold databaseAt? at hplace
  unfold indexState openIndex readHeld
  rw [ho]
  simp only [bind, Except.bind, hplace, if_pos (Nat.zero_le maxPatience)]

namespace Upkeep

variable {path : String} {first u v : Upkeep} {seen : Store} {time : Nat}

/-! ### What comes of an index -/

theorem Change.now_le (hc : Change u v) : u.now ≤ v.now := by
  cases hc with
  | withDump r e ts recorded later => exact Nat.le_succ_of_le later
  | without dumps => exact Nat.le_refl _
  | none => exact Nat.le_refl _

/-- A change leaves alone, or removes, what was taken in before. -/
theorem Change.tracks (hc : Change u v) (hle : time ≤ u.now)
    (h : seen.Tracks u.index.store time) : seen.Tracks v.index.store time := by
  cases hc with
  | withDump r e ts recorded later => exact h.withDump (Nat.le_trans hle later)
  | without dumps => exact h.deleteDumps dumps
  | none => exact h

/-- Nothing of a moment comes back in another form. -/
theorem History.tracks (hh : History path first u) (h : first.InOrder) :
    first.now ≤ u.now ∧ first.index.store.Tracks u.index.store first.now := by
  induction hh with
  | start => exact ⟨Nat.le_refl _, Store.tracks_refl _ _⟩
  | step hbefore hs ih =>
    obtain ⟨hle, htracks⟩ := ih
    have hc := hs.change (hbefore.inOrder h).tables
    exact ⟨Nat.le_trans hle hc.now_le, hc.tracks hle htracks⟩

/-! ### The state -/

/-- The state of an index in order counts its dumps and its rows. -/
theorem InOrder.state_eq (h : u.InOrder) : u.index.state = .ok {
    dumps := u.index.store.dumps.length
    triples := u.index.store.rows.length
    lastIngested := (u.index.store.dumps.map DumpRecord.ingestedAt).max? } :=
  h.tables.state.trans h.sound.state_eq

/-- **Moments with one state** have the same rows and the same records. -/
theorem InOrder.perm_of_state (hu : u.InOrder) (hv : v.InOrder)
    (htracks : u.index.store.Tracks v.index.store u.now) (hstate : u.index.state = v.index.state) :
    v.index.store.rows.Perm u.index.store.rows ∧ v.index.store.dumps.Perm u.index.store.dumps := by
  rw [hu.tables.state, hv.tables.state] at hstate
  refine ⟨(List.perm_ext_iff_of_nodup hv.once hu.once).mpr fun row => ?_, ?_⟩
  · exact Store.same_rows hu.sound hv.sound htracks hstate row
  · exact (Store.perm_dumps hu.sound hv.sound htracks hstate).2

/-- **The state of an index tells what it holds.**  From a new index on, whatever dumps are taken in
and removed: every row belongs to a recorded dump, every dump goes by the identifier of its path and
is recorded with the number of its rows, and the state can be had and counts all rows.  If at two
moments the state is the same, so are the rows and the records. -/
theorem state_tells {d : Database} (made : Migration.setUp .empty = (.ok (), d))
    {earlier later : Upkeep} (before : History path (start d) earlier)
    (between : History path earlier later) :
    let store := later.index.store
    (∀ row ∈ store.rows, ∃ e ∈ store.dumps, e.id = row.dump) ∧
    (∀ e ∈ store.dumps, e.id = dumpId e.path ∧
      e.tripleCount = (store.rows.filter fun row => decide (row.dump = e.id)).length) ∧
    (∀ t : FileTree, t.database? path = some later.index → t.isFile path = true →
      ∃ state, t.indexState path = .ok state ∧ state.triples = store.rows.length) ∧
    (∀ (t t' : FileTree) (state : IndexState), t.database? path = some earlier.index →
      t'.database? path = some later.index → t.indexState path = .ok state →
      t'.indexState path = .ok state →
        store.rows.Perm earlier.index.store.rows ∧ store.dumps.Perm earlier.index.store.dumps) := by
  intro store
  have hearlier := before.inOrder (inOrder_start made)
  have hlater := between.inOrder hearlier
  -- where the state can be had it is that of the index, whatever files are beside it
  have hread {x : FileTree} {d : Database} {state : IndexState} (hd : x.database? path = some d)
      (hx : x.indexState path = .ok state) : d.state = .ok state := by
    rw [FileTree.indexState_eq hd] at hx
    split at hx
    · exact hx
    · cases hx
  refine ⟨hlater.sound.owned, fun e he => ⟨hlater.id_eq he, hlater.sound.counted e he⟩,
    fun t held there => ?_, fun t t' state held held' hstate hstate' => ?_⟩
  · rw [FileTree.indexState_eq held, if_pos there, hlater.state_eq]
    exact ⟨_, rfl, rfl⟩
  · exact hearlier.perm_of_state hlater (between.tracks hearlier).2
      ((hread held hstate).trans (hread held' hstate').symm)

/-! ### A dump that comes and goes -/

/-- An index with the dump of one film. -/
def withJaws : Upkeep where
  index := (Database.ingest {} 1 ⟨"a.nt", Text.fileName "./a.nt", FileTree.jaws⟩ Migration.fresh).2
  readings := [⟨⟨"a.nt", Text.fileName "./a.nt", FileTree.jaws⟩, {}⟩]
  now := 2

/-- The index when the dump has been taken in under another path as well. -/
def withJawsTwice : Upkeep where
  index := (Database.ingest {} 2 ⟨"b.nt", Text.fileName "./a.nt", FileTree.jaws⟩ withJaws.index).2
  readings := ⟨⟨"b.nt", Text.fileName "./a.nt", FileTree.jaws⟩, {}⟩ ::
    withJaws.readings.filter fun r => decide (r.id ≠ dumpId "b.nt")
  now := 3

/-- The index when that has been removed again. -/
def withJawsAgain : Upkeep := { withJawsTwice with
  index := (Database.deleteDumps ["b.nt"] withJawsTwice.index).2
  readings := withJawsTwice.readings.filter fun r => decide (r.id ∉ ["b.nt"].map dumpId) }

theorem history_withJaws : History "./f.db" (start Migration.fresh) withJaws := by
  have hread : (FileTree.withIndex Migration.fresh).read "./a.nt" = .ok FileTree.jaws := by
    decide +kernel
  have htaken : (Database.ingest {} 1 ⟨"a.nt", Text.fileName "./a.nt", FileTree.jaws⟩
      Migration.fresh).1 = .ok ⟨2, 2, 0⟩ := by
    decide +kernel
  exact History.start.step
    (step_of_ingest (FileTree.holds_withIndex Migration.fresh) (Nat.zero_le 1) hread htaken)

theorem history_withJawsAgain : History "./f.db" withJaws withJawsAgain := by
  have hread : (FileTree.withIndex withJaws.index).read "./a.nt" = .ok FileTree.jaws := by
    decide +kernel
  have hdone : (Database.ingest {} 2 ⟨"b.nt", Text.fileName "./a.nt", FileTree.jaws⟩
        withJaws.index).1 = .ok ⟨2, 2, 0⟩ ∧
      (Database.deleteDumps ["b.nt"] withJawsTwice.index).1 = .ok 2 := by
    decide +kernel
  obtain ⟨htaken, hdeleted⟩ := hdone
  have htwice : Step "./f.db" withJaws withJawsTwice :=
    step_of_ingest (FileTree.holds_withIndex withJaws.index) (Nat.le_refl 2) hread htaken
  have hagain : Step "./f.db" withJawsTwice withJawsAgain :=
    step_of_delete (FileTree.holds_withIndex withJawsTwice.index) (List.cons_ne_nil _ _) hdeleted
  exact (History.start.step htwice).step hagain

theorem state_tells_jaws :
    withJawsAgain.index.store.rows.Perm withJaws.index.store.rows ∧
      withJawsAgain.index.store.dumps.Perm withJaws.index.store.dumps := by
  have hstates :
      (FileTree.withIndex withJaws.index).indexState "./f.db" = .ok ⟨1, 2, some 1⟩ ∧
      (FileTree.withIndex withJawsAgain.index).indexState "./f.db" = .ok ⟨1, 2, some 1⟩ := by
    decide +kernel
  exact (state_tells Migration.setUp_empty history_withJaws history_withJawsAgain).2.2.2 _ _ _
    (FileTree.holds_withIndex withJaws.index).database?
    (FileTree.holds_withIndex withJawsAgain.index).database? hstates.1 hstates.2

end Upkeep

end GraphAnswers
