import GraphAnswers.Proofs.Outcomes
import GraphAnswers.Proofs.Repetitions
import GraphAnswers.Store.Ingest
import Mathlib.Data.List.Induction
import Mathlib.Data.List.Nodup
/-!
# What taking a dump in comes to

Triples are inserted batch by batch, and a row that is there is not inserted again.  Neither shows
in the end: the store holds, in place of the rows that the dump contributed before, one row for each
distinct accepted triple (`Store.takeIn_eq`), and the counts are those of the lines
(`Dump.statsOf`).  The argument follows the loop: what has been inserted so far and what still waits
make up the accepted triples of the lines read so far (`Intake.Reads`).
-/
namespace GraphAnswers

/-- The lines of a dump, if each of them can be read. -/
def DumpFile.readLines (d : DumpFile) : Except Failure (List String) := d.lines.mapM id

theorem IngestStats.eq_of {a b : IngestStats} (hl : a.lines = b.lines) (ht : a.triples = b.triples)
    (hs : a.skipped = b.skipped) : a = b := by
  cases a; cases b; cases hl; cases ht; cases hs; rfl

namespace Dump

/-- The triple that a line contributes. -/
def accepted? (cap : Nat) (filter : Filter) (line : String) : Option Triple :=
  (scan cap line).filter filter.accepts

/-- The triples that lines contribute, in order of the lines. -/
def accepted (cap : Nat) (filter : Filter) (lines : List String) : List Triple :=
  lines.filterMap (accepted? cap filter)

/-- The counts of a dump with these lines. -/
def statsOf (cap : Nat) (filter : Filter) (lines : List String) : IngestStats where
  lines := lines.length
  triples := (accepted cap filter lines).eraseDups.length
  skipped := lines.countP fun line => (accepted? cap filter line).isNone

theorem accepted_concat (cap : Nat) (filter : Filter) (lines : List String) (line : String) :
    accepted cap filter (lines ++ [line]) =
      accepted cap filter lines ++ (accepted? cap filter line).toList := by
  unfold accepted
  rw [List.filterMap_append]
  cases h : accepted? cap filter line <;> simp [h]

theorem accepted?_eq_some_iff {cap : Nat} {filter : Filter} {line : String} {t : Triple} :
    accepted? cap filter line = some t ↔ scan cap line = some t ∧ filter.accepts t = true :=
  Option.filter_eq_some_iff

theorem mem_accepted {cap : Nat} {filter : Filter} {lines : List String} {t : Triple} :
    t ∈ accepted cap filter lines ↔
      ∃ line ∈ lines, scan cap line = some t ∧ filter.accepts t = true := by
  unfold accepted
  rw [List.mem_filterMap]
  exact exists_congr fun line => and_congr_right fun _ => accepted?_eq_some_iff

theorem accepted?_isNone (cap : Nat) (filter : Filter) (line : String) :
    (accepted? cap filter line).isNone = !(scan cap line).any filter.accepts := by
  unfold accepted?
  cases scan cap line with
  | none => rfl
  | some t => cases h : filter.accepts t <;> simp [h]

end Dump

namespace Store

/-- A number of rows that a file can hold is counted as it is. -/
theorem signedCount_eq {n : Nat} (h : n ≤ maxRows) : signedCount n = n := by
  unfold signedCount
  unfold maxRows at h
  rw [Int.bmod_eq_of_le] <;> omega

/-! ### Inserting -/

section Inserting
variable (s : Store) (dump : String)

theorem insert_append (xs ys : List Triple) :
    (s.insert dump (xs ++ ys)).1 = ((s.insert dump xs).1.insert dump ys).1 := by
  simp only [insert, List.foldl_append]

theorem insert_concat (xs : List Triple) (t : Triple) :
    (s.insert dump (xs ++ [t])).1 = (s.insert dump xs).1.insertRow ⟨t, dump⟩ := by
  rw [insert_append]
  rfl

/-- The rows after an insertion: the old ones, and those of the distinct triples that were not yet
there, in order of their first occurrences. -/
theorem insert_fst (ts : List Triple) :
    (s.insert dump ts).1 = { s with
      rows := s.rows ++ (ts.eraseDups.map fun t => Row.mk t dump).filter (· ∉ s.rows) } := by
  induction ts using List.reverseRecOn with
  | nil => simp [insert]
  | append_singleton ts t ih =>
    rw [insert_concat, ih, eraseDups_concat, insertRow]
    by_cases ht : t ∈ ts
    · by_cases hs : Row.mk t dump ∈ s.rows <;> simp [ht, hs, List.mem_eraseDups]
    · by_cases hs : Row.mk t dump ∈ s.rows <;> simp [ht, hs, List.mem_eraseDups]

theorem insert_snd (ts : List Triple) :
    (s.insert dump ts).2 =
      ((ts.eraseDups.map fun t => Row.mk t dump).filter (· ∉ s.rows)).length := by
  show (s.insert dump ts).1.rows.length - s.rows.length = _
  rw [insert_fst, List.length_append, Nat.add_sub_cancel_left]

/-- The counts of two insertions add up. -/
theorem insert_snd_append (xs ys : List Triple) :
    (s.insert dump (xs ++ ys)).2 =
      (s.insert dump xs).2 + ((s.insert dump xs).1.insert dump ys).2 := by
  have hle : s.rows.length ≤ (s.insert dump xs).1.rows.length := by
    rw [insert_fst, List.length_append]
    exact Nat.le_add_right _ _
  have hle' : (s.insert dump xs).1.rows.length ≤
      ((s.insert dump xs).1.insert dump ys).1.rows.length := by
    rw [insert_fst _ dump ys, List.length_append]
    exact Nat.le_add_right _ _
  have hxy := congrArg (fun s => s.rows.length) (s.insert_append dump xs ys)
  change (s.insert dump (xs ++ ys)).1.rows.length - s.rows.length =
    (s.insert dump xs).1.rows.length - s.rows.length +
      (((s.insert dump xs).1.insert dump ys).1.rows.length - (s.insert dump xs).1.rows.length)
  omega

end Inserting

/-! ### The loop over the lines -/

namespace Intake

/-- What is known of an intake that started from a store and has read these lines: the accepted
triples are those inserted so far and those that still wait. -/
structure Reads (start : Store) (dump : String) (options : IngestOptions) (lines : List String)
    (x : Intake) : Prop where
  split : ∃ done, Dump.accepted options.maxObjectLength options.filter lines = done ++ x.batch ∧
    start.insert dump done = (x.store, x.stats.triples)
  counted : x.stats.lines = lines.length
  passedOver : x.stats.skipped = lines.countP fun line =>
    (Dump.accepted? options.maxObjectLength options.filter line).isNone

variable {start : Store} {dump : String} {options : IngestOptions} {lines : List String}
  {x : Intake}

theorem reads_nil : Reads start dump options [] { store := start } :=
  ⟨⟨[], rfl, by simp [insert]⟩, rfl, rfl⟩

/-- Where the batches end makes no difference. -/
theorem Reads.flush (h : Reads start dump options lines x) :
    Reads start dump options lines (x.flush dump) ∧ (x.flush dump).batch = [] := by
  obtain ⟨done, hts, hdone⟩ := h.split
  have h1 : (start.insert dump done).1 = x.store := by rw [hdone]
  have h2 : (start.insert dump done).2 = x.stats.triples := by rw [hdone]
  refine ⟨⟨⟨done ++ x.batch, by rw [hts]; simp [Intake.flush], ?_⟩, h.counted, h.passedOver⟩, rfl⟩
  refine Prod.ext ?_ ?_
  · rw [insert_append, h1]
    rfl
  · rw [insert_snd_append, h1, h2]
    rfl

theorem Reads.takeLine (h : Reads start dump options lines x) (line : String) :
    Reads start dump options (lines ++ [line]) (x.takeLine options dump line) := by
  obtain ⟨done, hts, hdone⟩ := h.split
  have hacc : accepted? options line =
      Dump.accepted? options.maxObjectLength options.filter line := rfl
  have hcount := h.counted
  have hskip := h.passedOver
  unfold Intake.takeLine
  rw [hacc]
  cases ht : Dump.accepted? options.maxObjectLength options.filter line with
  | none =>
    refine ⟨⟨done, ?_, hdone⟩, ?_, ?_⟩
    · rw [Dump.accepted_concat, ht, hts]
      simp
    · simp [hcount]
    · simp [hskip, ht]
  | some t =>
    have hnext : Reads start dump options (lines ++ [line])
        { x with
          batch := x.batch ++ [t]
          stats := { x.stats with lines := x.stats.lines + 1 } } := by
      refine ⟨⟨done, ?_, hdone⟩, ?_, ?_⟩
      · rw [Dump.accepted_concat, ht, hts]
        simp
      · simp [hcount]
      · simp [hskip, ht]
    dsimp only
    split
    · exact hnext.flush.1
    · exact hnext

theorem Reads.foldl (h : Reads start dump options lines x) (more : List String) :
    Reads start dump options (lines ++ more) (more.foldl (Intake.takeLine options dump) x) := by
  induction more generalizing lines x with
  | nil => simpa using h
  | cons line more ih =>
    have := ih (h.takeLine line)
    rwa [List.append_assoc, List.singleton_append] at this

end Intake

/-! ### The store with a dump in it -/

/-- The store with triples in place of those that a dump contributed before. -/
def replaceTriples (s : Store) (dump : String) (ts : List Triple) : Store :=
  { s with rows := (s.rows.filter fun row => decide (row.dump ≠ dump)) ++
      ts.eraseDups.map fun t => Row.mk t dump }

/-- The store with a record in place of the one with its identifier. -/
def putRecord (s : Store) (r : DumpRecord) : Store :=
  if s.dumps.any (·.id == r.id) then
    { s with dumps := s.dumps.map fun e => if e.id = r.id then r else e }
  else { s with dumps := s.dumps ++ [r] }

/-- The store with a dump in it: its record, and its triples. -/
def withDump (s : Store) (r : DumpRecord) (ts : List Triple) : Store :=
  (s.replaceTriples r.id ts).putRecord r

/-- Whether no other dump is recorded under the path of a record. -/
def HasPlaceFor (s : Store) (r : DumpRecord) : Prop := ∀ e ∈ s.dumps, e.path = r.path → e.id = r.id

section Placing
variable (s : Store) (r : DumpRecord) (ts : List Triple)

/-- Inserting after a deletion adds one row for each distinct triple. -/
theorem insert_deleteTriples (dump : String) :
    (s.deleteTriples dump).1.insert dump ts = (s.replaceTriples dump ts, ts.eraseDups.length) := by
  have hnew : (ts.eraseDups.map fun t => Row.mk t dump).filter
      (· ∉ (s.deleteTriples dump).1.rows) = ts.eraseDups.map fun t => Row.mk t dump := by
    refine List.filter_eq_self.mpr fun row hrow => ?_
    obtain ⟨t, _, rfl⟩ := List.mem_map.mp hrow
    simp [deleteTriples]
  refine Prod.ext ?_ ?_
  · rw [insert_fst, hnew]
    rfl
  · rw [insert_snd, hnew, List.length_map]

theorem record_ok_iff {after : Store} :
    s.record r = .ok after ↔ s.HasPlaceFor r ∧ after = s.putRecord r := by
  have hplace : s.HasPlaceFor r ↔
      ¬(s.dumps.any fun e => e.path == r.path && e.id != r.id) = true := by
    simp [HasPlaceFor]
  rw [hplace]
  unfold record putRecord
  split
  · rename_i htaken
    simp [htaken]
  · rename_i hfree
    split <;> simp [hfree, eq_comm]

@[simp] theorem rows_putRecord : (s.putRecord r).rows = s.rows := by
  unfold putRecord
  split <;> rfl

theorem mem_dumps_putRecord {e : DumpRecord} :
    e ∈ (s.putRecord r).dumps ↔ e = r ∨ (e ∈ s.dumps ∧ e.id ≠ r.id) := by
  unfold putRecord
  split
  · rename_i hany
    obtain ⟨old, hold, hid⟩ := List.any_eq_true.mp hany
    rw [beq_iff_eq] at hid
    simp only [List.mem_map]
    constructor
    · rintro ⟨e', he', rfl⟩
      by_cases h : e'.id = r.id
      · exact .inl (if_pos h)
      · rw [if_neg h]
        exact .inr ⟨he', h⟩
    · rintro (rfl | ⟨he, hne⟩)
      · exact ⟨old, hold, if_pos hid⟩
      · exact ⟨e, he, if_neg hne⟩
  · rename_i hany
    have hnone : ∀ e ∈ s.dumps, e.id ≠ r.id := by simpa using hany
    simp only [List.mem_append, List.mem_singleton]
    constructor
    · rintro (he | rfl)
      · exact .inr ⟨he, hnone e he⟩
      · exact .inl rfl
    · rintro (rfl | ⟨he, _⟩)
      · exact .inr rfl
      · exact .inl he

theorem rows_withDump : (s.withDump r ts).rows =
    (s.rows.filter fun row => decide (row.dump ≠ r.id)) ++
      ts.eraseDups.map fun t => Row.mk t r.id :=
  rows_putRecord _ _

theorem mem_rows_withDump {row : Row} : row ∈ (s.withDump r ts).rows ↔
    (row ∈ s.rows ∧ row.dump ≠ r.id) ∨ (row.dump = r.id ∧ row.triple ∈ ts) := by
  rw [rows_withDump, List.mem_append, List.mem_filter, List.mem_map, decide_eq_true_eq]
  refine or_congr Iff.rfl ?_
  constructor
  · rintro ⟨t, ht, rfl⟩
    exact ⟨rfl, List.mem_eraseDups.mp ht⟩
  · rintro ⟨hid, ht⟩
    exact ⟨row.triple, List.mem_eraseDups.mpr ht, by rw [← hid]⟩

/-- The rows of the dump. -/
theorem ownRows_withDump : ((s.withDump r ts).rows.filter fun row => decide (row.dump = r.id)) =
    ts.eraseDups.map fun t => Row.mk t r.id := by
  have hold : (s.rows.filter fun row => decide (row.dump ≠ r.id)).filter
      (fun row => decide (row.dump = r.id)) = [] := by
    refine List.filter_eq_nil_iff.mpr fun row hrow => ?_
    simpa using (List.mem_filter.mp hrow).2
  have hnew : (ts.eraseDups.map fun t => Row.mk t r.id).filter
      (fun row => decide (row.dump = r.id)) = ts.eraseDups.map fun t => Row.mk t r.id := by
    refine List.filter_eq_self.mpr fun row hrow => ?_
    obtain ⟨t, _, rfl⟩ := List.mem_map.mp hrow
    simp
  rw [rows_withDump, List.filter_append, hold, hnew, List.nil_append]

/-- A file that has room for the rows can count those of the dump. -/
theorem signedCount_of_room (hroom : (s.withDump r ts).rows.length ≤ maxRows) :
    signedCount ts.eraseDups.length = ts.eraseDups.length := by
  refine signedCount_eq (Nat.le_trans ?_ hroom)
  rw [rows_withDump, List.length_append, List.length_map]
  exact Nat.le_add_left _ _

theorem length_rows_withDump_le :
    (s.withDump r ts).rows.length ≤ s.rows.length + ts.eraseDups.length := by
  rw [rows_withDump, List.length_append, List.length_map]
  exact Nat.add_le_add_right (List.length_filter_le _ _) _

/-- A selection that passes over the rows of the dump finds what it found before. -/
theorem filter_rows_withDump {p : Row → Bool} (h : ∀ t, p ⟨t, r.id⟩ = false) :
    (s.withDump r ts).rows.filter p = s.rows.filter p := by
  have hnew : (ts.eraseDups.map fun t => Row.mk t r.id).filter p = [] := by
    refine List.filter_eq_nil_iff.mpr fun row hrow => ?_
    obtain ⟨t, _, rfl⟩ := List.mem_map.mp hrow
    simp [h t]
  rw [rows_withDump, List.filter_append, hnew, List.append_nil, List.filter_filter]
  refine List.filter_congr fun row _ => ?_
  by_cases hrow : row.dump = r.id
  · obtain ⟨t, id⟩ := row
    subst hrow
    simp [h t]
  · simp [hrow]

/-- A selection that passes over the records with the identifier finds what it found before. -/
theorem filter_dumps_withDump {p : DumpRecord → Bool} (hr : p r = false)
    (h : ∀ e ∈ s.dumps, e.id = r.id → p e = false) :
    (s.withDump r ts).dumps.filter p = s.dumps.filter p := by
  have hmap (l : List DumpRecord) (hl : ∀ e ∈ l, e.id = r.id → p e = false) :
      (l.map fun e => if e.id = r.id then r else e).filter p = l.filter p := by
    induction l with
    | nil => rfl
    | cons e l ih =>
      have hrest := ih fun e he => hl e (List.mem_cons_of_mem _ he)
      by_cases hid : e.id = r.id
      · simp [hid, hr, hl e List.mem_cons_self hid, hrest]
      · simp [hid, List.filter_cons, hrest]
  unfold withDump putRecord
  split
  · exact hmap s.dumps h
  · show (s.dumps ++ [r]).filter p = _
    simp [hr]

theorem nodup_ids_putRecord (h : (s.dumps.map DumpRecord.id).Nodup) :
    ((s.putRecord r).dumps.map DumpRecord.id).Nodup := by
  unfold putRecord
  split
  · have hids : (s.dumps.map fun e => if e.id = r.id then r else e).map DumpRecord.id =
        s.dumps.map DumpRecord.id := by
      rw [List.map_map]
      refine List.map_congr_left fun e _ => ?_
      by_cases he : e.id = r.id <;> simp [he]
    exact hids ▸ h
  · rename_i hany
    have hnone : ∀ e ∈ s.dumps, e.id ≠ r.id := by simpa using hany
    rw [List.map_append]
    refine List.nodup_append.mpr ⟨h, List.nodup_singleton _, fun id hid id' hid' heq => ?_⟩
    obtain ⟨e, he, rfl⟩ := List.mem_map.mp hid
    exact hnone e he (heq.trans (List.mem_singleton.mp hid'))

/-- A record that no other one stands in the way of keeps the paths distinct. -/
theorem nodup_paths_putRecord (hids : (s.dumps.map DumpRecord.id).Nodup)
    (h : (s.dumps.map DumpRecord.path).Nodup) (hfree : s.HasPlaceFor r) :
    ((s.putRecord r).dumps.map DumpRecord.path).Nodup := by
  unfold putRecord
  split
  · rw [List.map_map]
    refine List.pairwise_map.mpr ?_
    have hpairs := (List.pairwise_map.mp hids).and (List.pairwise_map.mp h)
    refine hpairs.imp_of_mem fun {e e'} he he' hdistinct heq => ?_
    obtain ⟨hid, hpath⟩ := hdistinct
    dsimp only [Function.comp_apply] at heq
    by_cases h1 : e.id = r.id
    · by_cases h2 : e'.id = r.id
      · exact hid (h1.trans h2.symm)
      · rw [if_pos h1, if_neg h2] at heq
        exact h2 (hfree e' he' heq.symm)
    · by_cases h2 : e'.id = r.id
      · rw [if_neg h1, if_pos h2] at heq
        exact h1 (hfree e he heq)
      · rw [if_neg h1, if_neg h2] at heq
        exact hpath heq
  · rename_i hany
    have hnone : ∀ e ∈ s.dumps, e.id ≠ r.id := by simpa using hany
    rw [List.map_append]
    refine List.nodup_append.mpr ⟨h, List.nodup_singleton _, fun path hpath path' hpath' heq => ?_⟩
    obtain ⟨e, he, rfl⟩ := List.mem_map.mp hpath
    exact hnone e he (hfree e he (heq.trans (List.mem_singleton.mp hpath')))

/-- The rows of the dump are new ones, each of them once. -/
theorem nodup_rows_withDump (h : s.rows.Nodup) : (s.withDump r ts).rows.Nodup := by
  rw [rows_withDump]
  refine List.nodup_append.mpr ⟨h.filter _,
    (nodup_eraseDups ts).map fun t t' h => congrArg Row.triple h, fun old hold new hnew => ?_⟩
  rintro rfl
  obtain ⟨t, _, rfl⟩ := List.mem_map.mp hnew
  simpa using (List.mem_filter.mp hold).2

theorem mem_dumps_withDump {e : DumpRecord} :
    e ∈ (s.withDump r ts).dumps ↔ e = r ∨ (e ∈ s.dumps ∧ e.id ≠ r.id) :=
  mem_dumps_putRecord _ _

end Placing

/-! ### Taking in as a whole -/

/-- What is left when the triples that still wait are inserted. -/
theorem Intake.Reads.done {s : Store} {dump : String} {options : IngestOptions}
    {lines : List String} {x : Intake}
    (h : Reads (s.deleteTriples dump).1 dump options lines x) :
    (x.flush dump).store = s.replaceTriples dump
        (Dump.accepted options.maxObjectLength options.filter lines) ∧
      (x.flush dump).stats = Dump.statsOf options.maxObjectLength options.filter lines := by
  obtain ⟨hflushed, hempty⟩ := h.flush
  obtain ⟨done, hts, hins⟩ := hflushed.split
  rw [hempty, List.append_nil] at hts
  rw [← hts, insert_deleteTriples] at hins
  refine ⟨(congrArg Prod.fst hins).symm, ?_⟩
  exact IngestStats.eq_of hflushed.counted (congrArg Prod.snd hins).symm hflushed.passedOver

/-- Reading lines one by one comes to reading them all first. -/
theorem foldlM_lines {β : Type} (f : β → String → β) (lines : List (Except Failure String))
    (b : β) :
    lines.foldlM (fun x line => do pure (f x (← line))) b =
      (lines.mapM id).map fun read => read.foldl f b := by
  induction lines generalizing b with
  | nil => rfl
  | cons line lines ih =>
    cases line with
    | error failure => rfl
    | ok text =>
      rw [List.foldlM_cons, List.mapM_cons]
      show lines.foldlM _ (f b text) = _
      rw [ih]
      cases lines.mapM id <;> rfl

/-- **What taking a dump in comes to**, batches left aside. -/
theorem takeIn_eq (s : Store) (options : IngestOptions) (dump : DumpFile) :
    s.takeIn options dump =
      if maxBatch < options.batchSize then .error .io
      else dump.readLines.map fun lines =>
        (s.replaceTriples (dumpId dump.path)
            (Dump.accepted options.maxObjectLength options.filter lines),
          Dump.statsOf options.maxObjectLength options.filter lines) := by
  unfold takeIn
  split
  · rfl
  · show (dump.lines.foldlM _ _ >>= _) = _
    rw [foldlM_lines]
    unfold DumpFile.readLines
    cases dump.lines.mapM id with
    | error failure => rfl
    | ok lines =>
      have hstart : Intake.Reads (s.deleteTriples (dumpId dump.path)).1 (dumpId dump.path) options []
          { store := (s.deleteTriples (dumpId dump.path)).1 } := Intake.reads_nil
      obtain ⟨hstore, hstats⟩ := (hstart.foldl lines).done
      exact congrArg Except.ok (Prod.ext hstore hstats)

theorem takeIn_ok_iff {s after : Store} {options : IngestOptions} {dump : DumpFile}
    {stats : IngestStats} : s.takeIn options dump = .ok (after, stats) ↔
      options.batchSize ≤ maxBatch ∧ ∃ lines, dump.readLines = .ok lines ∧
        after = s.replaceTriples (dumpId dump.path)
          (Dump.accepted options.maxObjectLength options.filter lines) ∧
        stats = Dump.statsOf options.maxObjectLength options.filter lines := by
  rw [takeIn_eq]
  by_cases hb : maxBatch < options.batchSize
  · rw [if_pos hb]
    constructor
    · intro h
      cases h
    · rintro ⟨hle, _⟩
      omega
  · rw [if_neg hb, map_ok_iff]
    constructor
    · rintro ⟨lines, hlines, h⟩
      cases h
      exact ⟨by omega, lines, hlines, rfl, rfl⟩
    · rintro ⟨_, lines, hlines, rfl, rfl⟩
      exact ⟨lines, hlines, rfl⟩

/-- The size of the batches, as long as one can be had, makes no difference. -/
theorem takeIn_batchSize {s : Store} {options : IngestOptions} {size : Nat} (dump : DumpFile)
    (h : options.batchSize ≤ maxBatch) (hsize : size ≤ maxBatch) :
    s.takeIn { options with batchSize := size } dump = s.takeIn options dump := by
  rw [takeIn_eq, takeIn_eq, if_neg (Nat.not_lt.mpr hsize), if_neg (Nat.not_lt.mpr h)]

end Store

end GraphAnswers
