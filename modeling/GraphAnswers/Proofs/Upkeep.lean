import GraphAnswers.Proofs.Bookkeeping
import GraphAnswers.Proofs.NewIndex
import GraphAnswers.Proofs.StoreState
/-!
# An index from its first dump on

Once an index file has been made, dumps are taken in and removed again, at later and later times,
and now and then either fails.  The files beside the index are anyone's: from one step to the next
they may become any others.  What the index holds is told by the dumps that have been taken in and
not been removed since, each as it was read the last time: the records are of them, and the rows
carry what they gave (`Upkeep.InOrder`, `History.inOrder`).
-/
namespace GraphAnswers

/-- A dump as it was read, and how it was taken in. -/
structure Reading where
  dump : DumpFile
  options : IngestOptions

namespace Reading

/-- The identifier of the dump. -/
def id (r : Reading) : String := dumpId r.dump.path

/-- Whether a line of the dump gives a triple, and the filter accepts it. -/
def GivesBy (r : Reading) (line : String) (triple : Triple) : Prop :=
  (∃ lines, r.dump.readLines = .ok lines ∧ line ∈ lines) ∧
    Dump.scan r.options.maxObjectLength line = some triple ∧
      r.options.filter.accepts triple = true

/-- Whether the dump gives a triple. -/
def Gives (r : Reading) (triple : Triple) : Prop := ∃ line, r.GivesBy line triple

/-- Whether a record is of the dump as it was read. -/
structure Recorded (r : Reading) (e : DumpRecord) : Prop where
  id : e.id = r.id
  path : e.path = r.dump.path
  hash : e.hash = contentHash r.dump.octets

end Reading

/-- An index that is kept up. -/
structure Upkeep where
  index : Database
  /-- The dumps that it is made of, each as it was read the last time. -/
  readings : List Reading
  /-- A time that is later than that of every dump taken in. -/
  now : Nat

namespace Upkeep

/-- An index that no dump has been taken into. -/
def start (index : Database) : Upkeep := ⟨index, [], 0⟩

/-- **What may happen** to the index at a path. -/
inductive Step (path : String) : Upkeep → Upkeep → Prop
  /-- A dump is taken in, at a later time than any before. -/
  | ingest {u : Upkeep} {t t' : FileTree} {options : IngestOptions} {time : Nat}
      {file dump : String} {octets : List UInt8} {stats : IngestStats} {index : Database}
      (held : t.database? path = some u.index) (later : u.now ≤ time)
      (content : t.read file = .ok octets)
      (taken : t.ingest path options time file dump = (.ok stats, t'))
      (left : t'.database? path = some index) :
      Step path u {
        index
        readings := ⟨⟨dump, Text.fileName file, octets⟩, options⟩ ::
          u.readings.filter fun r => decide (r.id ≠ dumpId dump)
        now := time + 1 }
  /-- A dump cannot be taken in. -/
  | ingestFails {u : Upkeep} {t t' : FileTree} {options : IngestOptions} {time : Nat}
      {file dump : String} {failure : Failure} {index : Database}
      (held : t.database? path = some u.index)
      (failed : t.ingest path options time file dump = (.error failure, t'))
      (left : t'.database? path = some index) : Step path u { u with index }
  /-- Dumps are removed, whether they are there or not. -/
  | delete {u : Upkeep} {t t' : FileTree} {dumps : List String} {removed : Nat} {index : Database}
      (held : t.database? path = some u.index)
      (deleted : t.removeDumps path dumps = (.ok removed, t'))
      (left : t'.database? path = some index) :
      Step path u { u with
        index
        readings := u.readings.filter fun r => decide (r.id ∉ dumps.map dumpId) }
  /-- Dumps cannot be removed. -/
  | deleteFails {u : Upkeep} {t t' : FileTree} {dumps : List String} {failure : Failure}
      {index : Database} (held : t.database? path = some u.index)
      (failed : t.removeDumps path dumps = (.error failure, t'))
      (left : t'.database? path = some index) : Step path u { u with index }

/-- **What has happened** to the index at a path, step after step. -/
inductive History (path : String) (first : Upkeep) : Upkeep → Prop
  | start : History path first first
  | step {u v : Upkeep} (history : History path first u) (step : Step path u v) :
      History path first v

/-! ### What a step does -/

/-- What a step makes of an index: it has one more dump in it, or some less, or is as before. -/
inductive Change (u : Upkeep) : Upkeep → Prop
  | withDump (r : Reading) (e : DumpRecord) (ts : List Triple) (recorded : r.Recorded e)
      (later : u.now ≤ e.ingestedAt) (count : e.tripleCount = ts.eraseDups.length)
      (given : ∀ t, t ∈ ts ↔ r.Gives t)
      (room : (u.index.store.withDump e ts).rows.length ≤ Store.maxRows) :
      Change u {
        index := { u.index with store := u.index.store.withDump e ts }
        readings := r :: u.readings.filter fun old => decide (old.id ≠ r.id)
        now := e.ingestedAt + 1 }
  | without (dumps : List String) :
      Change u { u with
        index := { u.index with store := (u.index.store.deleteDumps dumps).1 }
        readings := u.readings.filter fun r => decide (r.id ∉ dumps.map dumpId) }
  | none : Change u u

variable {path : String} {u v : Upkeep}

/-- A dump that is taken in is in the index as it was read. -/
theorem change_ingest {d' : Database} {options : IngestOptions} {time : Nat} {dump : DumpFile}
    {stats : IngestStats} (ht : u.index.HasTables) (hlater : u.now ≤ time)
    (h : Database.ingest options time dump u.index = (.ok stats, d')) :
    Change u {
      index := d'
      readings := ⟨dump, options⟩ :: u.readings.filter fun r => decide (r.id ≠ dumpId dump.path)
      now := time + 1 } := by
  obtain ⟨_, lines, hlines, rfl, _, hroom, rfl⟩ := (Database.ingest_ok_iff ht).mp h
  -- without names for them, the record and its digests would be evaluated
  generalize hts : Dump.accepted options.maxObjectLength options.filter lines = ts at hroom ⊢
  generalize he : DumpFile.recordAt dump time
    (Dump.statsOf options.maxObjectLength options.filter lines) = e at hroom ⊢
  have hrecorded : Reading.Recorded ⟨dump, options⟩ e := by
    rw [← he]
    exact ⟨rfl, rfl, rfl⟩
  have htime : e.ingestedAt = time := by
    rw [← he]
    rfl
  have hcount : e.tripleCount = ts.eraseDups.length := by
    rw [← Store.signedCount_of_room u.index.store e ts hroom, ← he, ← hts]
    simp only [DumpFile.recordAt, Dump.statsOf]
  have hgiven (t : Triple) : t ∈ ts ↔ Reading.Gives ⟨dump, options⟩ t := by
    rw [← hts, Dump.mem_accepted]
    constructor
    · rintro ⟨line, hline, hgives⟩
      exact ⟨line, ⟨lines, hlines, hline⟩, hgives⟩
    · rintro ⟨line, ⟨lines', hlines', hline⟩, hgives⟩
      cases hlines.symm.trans hlines'
      exact ⟨line, hline, hgives⟩
  rw [← htime] at hlater ⊢
  exact .withDump ⟨dump, options⟩ e ts hrecorded hlater hcount hgiven hroom

theorem change_deleteDumps {d' : Database} {dumps : List String} {removed : Nat}
    (ht : u.index.HasTables) (h : Database.deleteDumps dumps u.index = (.ok removed, d')) :
    Change u { u with
      index := d'
      readings := u.readings.filter fun r => decide (r.id ∉ dumps.map dumpId) } := by
  obtain ⟨s, hs, _, rfl⟩ := Database.changing_ok_iff.mp h
  rw [ht.rows, ht.dumps] at hs
  have hpair : u.index.store.deleteDumps dumps = (s, removed) := Except.ok.inj hs
  obtain rfl : (u.index.store.deleteDumps dumps).1 = s := congrArg Prod.fst hpair
  exact .without dumps

/-- **A step is a change** of an index with tables. -/
theorem Step.change (hs : Step path u v) (ht : u.index.HasTables) : Change u v := by
  cases hs with
  | ingest held later content taken left =>
    unfold FileTree.ingest at taken
    rw [content] at taken
    rcases FileTree.onIndex_cases held taken with ⟨hout, hleft⟩ | ⟨hout, _⟩
    · cases left.symm.trans hleft
      exact change_ingest ht later (Prod.ext hout.symm rfl)
    · cases hout
  | ingestFails held failed left =>
    have hkept := (FileTree.ingest_exact held ht failed).resolve_left
      fun ⟨_, _, _, _, hok, _⟩ => by cases hok
    obtain ⟨_, _, hleft⟩ := hkept
    cases left.symm.trans hleft
    exact .none
  | delete held deleted left =>
    unfold FileTree.removeDumps at deleted
    split at deleted
    · rename_i hempty
      cases deleted
      cases left.symm.trans held
      rw [List.isEmpty_iff.mp hempty]
      simpa using Change.none
    · rcases FileTree.onIndex_cases held deleted with ⟨hout, hleft⟩ | ⟨hout, _⟩
      · cases left.symm.trans hleft
        exact change_deleteDumps ht (Prod.ext hout.symm rfl)
      · cases hout
  | @deleteFails _ _ dumps _ _ held failed left =>
    unfold FileTree.removeDumps at failed
    split at failed
    · cases failed
    · rcases FileTree.onIndex_cases held failed with ⟨hout, hleft⟩ | ⟨_, hleft⟩
      · cases left.symm.trans hleft
        have hsame : (Database.deleteDumps dumps u.index).2 = u.index :=
          Database.changing_error (Prod.ext hout.symm rfl)
        rw [hsame]
        exact .none
      · cases left.symm.trans hleft
        exact .none

/-! ### Steps on a file that can be changed -/

section Holding

variable {t : FileTree} {o : FileTree.Opening}

theorem step_of_ingest (h : t.Holds path o u.index) {options : IngestOptions} {time : Nat}
    {file dump : String} {octets : List UInt8} {stats : IngestStats} (later : u.now ≤ time)
    (content : t.read file = .ok octets)
    (taken : (Database.ingest options time ⟨dump, Text.fileName file, octets⟩ u.index).1 =
      .ok stats) :
    Step path u {
      index := (Database.ingest options time ⟨dump, Text.fileName file, octets⟩ u.index).2
      readings := ⟨⟨dump, Text.fileName file, octets⟩, options⟩ ::
        u.readings.filter fun r => decide (r.id ≠ dumpId dump)
      now := time + 1 } := by
  have hstep : t.ingest path options time file dump =
      (.ok stats, t.set o.place (.file (.index
        (Database.ingest options time ⟨dump, Text.fileName file, octets⟩ u.index).2))) := by
    unfold FileTree.ingest
    rw [content]
    dsimp only
    rw [h.onIndex_eq, taken]
  exact .ingest h.database? later content hstep (h.set _).database?

theorem step_of_delete (h : t.Holds path o u.index) {dumps : List String} {removed : Nat}
    (hdumps : dumps ≠ [])
    (deleted : (Database.deleteDumps dumps u.index).1 = .ok removed) :
    Step path u { u with
      index := (Database.deleteDumps dumps u.index).2
      readings := u.readings.filter fun r => decide (r.id ∉ dumps.map dumpId) } := by
  have hstep : t.removeDumps path dumps =
      (.ok removed, t.set o.place (.file (.index (Database.deleteDumps dumps u.index).2))) := by
    unfold FileTree.removeDumps
    rw [if_neg (by simpa using hdumps), h.onIndex_eq, deleted]
  exact .delete h.database? hstep (h.set _).database?

end Holding

/-! ### What holds all along -/

/-- **The invariant**: the store is in order, its records are of the dumps that the index is made
of, and its rows, none of them there twice, carry what these gave. -/
structure InOrder (u : Upkeep) : Prop where
  tables : u.index.HasTables
  sound : u.index.store.Sound u.now
  once : u.index.store.rows.Nodup
  recorded : ∀ e ∈ u.index.store.dumps, ∃ r ∈ u.readings, r.Recorded e
  rows : ∀ row, row ∈ u.index.store.rows ↔
    ∃ r ∈ u.readings, row.dump = r.id ∧ r.Gives row.triple

/-- Every record goes by the identifier of its path. -/
theorem InOrder.id_eq (h : u.InOrder) {e : DumpRecord} (he : e ∈ u.index.store.dumps) :
    e.id = dumpId e.path := by
  obtain ⟨r, _, hr⟩ := h.recorded e he
  rw [hr.id, hr.path]
  rfl

/-- An index that was just made. -/
theorem inOrder_start {d : Database} (h : Migration.setUp .empty = (.ok (), d)) :
    (start d).InOrder := by
  rw [Migration.setUp_empty] at h
  cases h
  exact
    { tables := Migration.fresh_hasTables
      sound := Store.sound_empty 0
      once := List.nodup_nil
      recorded := fun e he => by cases he
      rows := fun row => by simp [start, Migration.fresh] }

/-- A change keeps an index in order. -/
theorem Change.inOrder (hc : Change u v) (h : u.InOrder) : v.InOrder := by
  cases hc with
  | withDump r e ts recorded later count given room =>
    refine
      { tables := h.tables.withStore _
        sound := h.sound.withDump count later room
        once := Store.nodup_rows_withDump _ e ts h.once
        recorded := fun e' he' => ?_
        rows := fun row => ?_ }
    · rcases (Store.mem_dumps_withDump _ e ts).mp he' with rfl | ⟨hold, hne⟩
      · exact ⟨r, List.mem_cons_self, recorded⟩
      · obtain ⟨old, hmem, hrec⟩ := h.recorded e' hold
        refine ⟨old, List.mem_cons_of_mem _ (List.mem_filter.mpr ⟨hmem, decide_eq_true ?_⟩), hrec⟩
        rw [← hrec.id, ← recorded.id]
        exact hne
    · show row ∈ (u.index.store.withDump e ts).rows ↔ _
      -- the rows of the other dumps are the old ones, and those of this dump what it gives
      rw [Store.mem_rows_withDump, h.rows row, recorded.id, given]
      simp only [List.exists_mem_cons_iff, List.mem_filter, decide_eq_true_eq]
      constructor
      · rintro (⟨⟨old, hmem, hid, hgives⟩, hne⟩ | hown)
        · exact .inr ⟨old, ⟨hmem, hid ▸ hne⟩, hid, hgives⟩
        · exact .inl hown
      · rintro (hown | ⟨old, ⟨hmem, hne⟩, hid, hgives⟩)
        · exact .inr hown
        · exact .inl ⟨⟨old, hmem, hid, hgives⟩, hid ▸ hne⟩
  | without dumps =>
    refine
      { tables := h.tables.withStore _
        sound := h.sound.deleteDumps dumps
        once := ?_
        recorded := fun e he => ?_
        rows := fun row => ?_ }
    · show (u.index.store.deleteDumps dumps).1.rows.Nodup
      rw [Store.deleteDumps_fst]
      exact h.once.filter _
    · change e ∈ (u.index.store.deleteDumps dumps).1.dumps at he
      rw [Store.deleteDumps_fst] at he
      obtain ⟨hmem, hnot⟩ := List.mem_filter.mp he
      obtain ⟨r, hr, hrec⟩ := h.recorded e hmem
      rw [hrec.id] at hnot
      exact ⟨r, List.mem_filter.mpr ⟨hr, hnot⟩, hrec⟩
    · show row ∈ (u.index.store.deleteDumps dumps).1.rows ↔ _
      rw [Store.deleteDumps_fst, List.mem_filter, h.rows row]
      simp only [List.mem_filter, decide_eq_true_eq]
      constructor
      · rintro ⟨⟨r, hr, hid, hgives⟩, hnot⟩
        exact ⟨r, ⟨hr, hid ▸ hnot⟩, hid, hgives⟩
      · rintro ⟨r, ⟨hr, hnot⟩, hid, hgives⟩
        exact ⟨⟨r, hr, hid, hgives⟩, hid ▸ hnot⟩
  | none => exact h

/-- **What an index holds** is told by its dumps, whatever has happened. -/
theorem History.inOrder {first : Upkeep} (hh : History path first u) (h : first.InOrder) :
    u.InOrder := by
  induction hh with
  | start => exact h
  | step _ hs ih => exact (hs.change ih.tables).inOrder ih

end Upkeep

end GraphAnswers
