import GraphAnswers.Proofs.Inflate
import GraphAnswers.Proofs.IngestRuns
import GraphAnswers.Proofs.NewIndex
/-!
# Compressed dumps

A compressed dump is read up to the end of its first member, whatever follows.  So it is taken in
like a plain dump that holds the text of this member (`Database.ingest_members`).  Where the file
has one member, or only empty ones after the first, that is all of its content; the text of any
other member is lost, and nothing tells (`Database.later_members_lost`).
-/
namespace GraphAnswers

namespace Gzip

/-! ### Octets and their bits -/

theorem length_lowBits (n value : Nat) : (lowBits n value).length = n := by
  induction n generalizing value with
  | zero => rfl
  | succ n ih => rw [lowBits, List.length_cons, ih]

theorem length_bitsOf (octets : List UInt8) : (bitsOf octets).length = 8 * octets.length := by
  induction octets with
  | nil => rfl
  | cons o octets ih =>
    rw [bitsOf, List.flatMap_cons, List.length_append, length_lowBits, ← bitsOf, ih,
      List.length_cons]
    omega

theorem bitsOf_append (octets more : List UInt8) :
    bitsOf (octets ++ more) = bitsOf octets ++ bitsOf more :=
  List.flatMap_append

/-! ### Headers -/

/-- **Whether what is left out ends by itself**: octets that follow are left over. -/
def SkipsAlike (skip skip' : List UInt8 → Option (List UInt8)) (more : List UInt8) : Prop :=
  ∀ ⦃octets rest : List UInt8⦄, skip octets = some rest → skip' (octets ++ more) = some (rest ++ more)

/-- Leaves out a part of a header that is there only under a flag. -/
def skipIf (flag : Prop) [Decidable flag] (skip : List UInt8 → Option (List UInt8))
    (octets : List UInt8) : Option (List UInt8) :=
  if flag then skip octets else some octets

/-- Leaves out a part that is led by its length. -/
def skipCounted (octets : List UInt8) : Option (List UInt8) :=
  if octets.length < 2 then none
  else
    let length := natOfOctets (octets.take 2)
    if octets.length < 2 + length then none else some (octets.drop (2 + length))

/-- Leaves out the check value of what came before it. -/
def skipCheck (octets rest : List UInt8) : Option (List UInt8) :=
  if rest.length < 2 then none
  else
    let header := octets.take (octets.length - rest.length)
    let check := (Digest.Crc32.ofOctets header).toNat % 65536
    if natOfOctets (rest.take 2) = check then some (rest.drop 2) else none

theorem ite_bind {c : Prop} [Decidable c] {α β : Type} (x y : Option α) (f : α → Option β) :
    (if c then x else y) >>= f = if c then x >>= f else y >>= f := by
  split <;> rfl

/-- A header has a part for each of its flags. -/
theorem skipHeader_cons (flags : UInt8) (tail : List UInt8) :
    skipHeader (0x1f :: 0x8b :: 8 :: flags :: tail) =
      if (0x1f :: 0x8b :: 8 :: flags :: tail).length < 10 ∨ flags &&& 0xe0 ≠ 0 then none
      else (do
        let rest := (0x1f :: 0x8b :: 8 :: flags :: tail).drop 10
        let rest ← skipIf (flags &&& 4 ≠ 0) skipCounted rest
        let rest ← skipIf (flags &&& 8 ≠ 0) skipText rest
        let rest ← skipIf (flags &&& 16 ≠ 0) skipText rest
        skipIf (flags &&& 2 ≠ 0) (skipCheck (0x1f :: 0x8b :: 8 :: flags :: tail)) rest) := by
  simp only [skipIf, skipCounted, skipCheck, ite_bind]
  rfl

section Following
variable {skip skip' next next' : List UInt8 → Option (List UInt8)} {more : List UInt8}

theorem SkipsAlike.bind (h : SkipsAlike skip skip' more) (hnext : SkipsAlike next next' more) :
    SkipsAlike (fun octets => skip octets >>= next) (fun octets => skip' octets >>= next') more := by
  intro octets rest hrest
  obtain ⟨middle, hmiddle, hrest⟩ := Option.bind_eq_some_iff.mp hrest
  show (skip' (octets ++ more)).bind next' = _
  rw [h hmiddle]
  exact hnext hrest

theorem SkipsAlike.underFlag (flag : Prop) [Decidable flag] (h : SkipsAlike skip skip' more) :
    SkipsAlike (skipIf flag skip) (skipIf flag skip') more := by
  intro octets rest hrest
  by_cases hflag : flag
  · rw [skipIf, if_pos hflag] at hrest ⊢
    exact h hrest
  · rw [skipIf, if_neg hflag] at hrest ⊢
    cases hrest
    rfl

theorem skipsAlike_skipCounted (more : List UInt8) : SkipsAlike skipCounted skipCounted more := by
  intro octets rest hrest
  unfold skipCounted at hrest ⊢
  split at hrest
  · cases hrest
  rename_i htwo
  dsimp only at hrest ⊢
  split at hrest
  · cases hrest
  rename_i hall
  cases hrest
  have htake : (octets ++ more).take 2 = octets.take 2 := List.take_append_of_le_length (by omega)
  rw [htake, if_neg (by rw [List.length_append]; omega), if_neg (by rw [List.length_append]; omega),
    List.drop_append_of_le_length (by omega)]

theorem skipsAlike_skipText (more : List UInt8) : SkipsAlike skipText skipText more := by
  intro octets rest hrest
  unfold skipText at hrest ⊢
  dsimp only at hrest ⊢
  split at hrest
  · cases hrest
  rename_i zero after hafter
  split at hrest
  · rename_i hlength
    cases hrest
    have htake : (octets ++ more).takeWhile (· != 0) = octets.takeWhile (· != 0) := by
      have hended : (octets.takeWhile (· != 0)).length ≠ octets.length := by
        intro hall
        rw [hall, List.drop_length] at hafter
        cases hafter
      rw [List.takeWhile_append, if_neg hended]
    have hle : (octets.takeWhile (· != 0)).length ≤ octets.length :=
      (List.takeWhile_prefix _).length_le
    rw [htake, List.drop_append_of_le_length hle, hafter, List.cons_append]
    exact if_pos hlength
  · cases hrest

theorem skipsAlike_skipCheck (octets more : List UInt8) :
    SkipsAlike (skipCheck octets) (skipCheck (octets ++ more)) more := by
  intro left rest hrest
  unfold skipCheck at hrest ⊢
  have hheader : (octets ++ more).take ((octets ++ more).length - (left ++ more).length) =
      octets.take (octets.length - left.length) := by
    rw [List.length_append, List.length_append, Nat.add_sub_add_right]
    exact List.take_append_of_le_length (Nat.sub_le _ _)
  split at hrest
  · cases hrest
  rename_i htwo
  have htake : (left ++ more).take 2 = left.take 2 := List.take_append_of_le_length (by omega)
  rw [hheader, htake, if_neg (by rw [List.length_append]; omega)]
  dsimp only at hrest ⊢
  split at hrest
  · rename_i hcheck
    cases hrest
    rw [if_pos hcheck, List.drop_append_of_le_length (by omega)]
  · cases hrest

theorem skipsAlike_skipHeader (more : List UInt8) : SkipsAlike skipHeader skipHeader more := by
  intro octets rest hrest
  have hopening : ∃ flags tail, octets = 0x1f :: 0x8b :: 8 :: flags :: tail := by
    unfold skipHeader at hrest
    split at hrest
    · exact ⟨_, _, rfl⟩
    · cases hrest
  obtain ⟨flags, tail, rfl⟩ := hopening
  rw [skipHeader_cons] at hrest
  split at hrest
  · cases hrest
  rename_i hsound
  have hparts := ((skipsAlike_skipCounted more).underFlag (flags &&& 4 ≠ 0)).bind
    (((skipsAlike_skipText more).underFlag (flags &&& 8 ≠ 0)).bind
      (((skipsAlike_skipText more).underFlag (flags &&& 16 ≠ 0)).bind
        ((skipsAlike_skipCheck (0x1f :: 0x8b :: 8 :: flags :: tail) more).underFlag (flags &&& 2 ≠ 0))))
  have hlength : 10 ≤ (0x1f :: 0x8b :: 8 :: flags :: tail).length := by
    by_contra hshort
    exact hsound (.inl (Nat.lt_of_not_le hshort))
  have hrest := hparts hrest
  rw [← List.drop_append_of_le_length hlength] at hrest
  simp only [List.cons_append] at hrest ⊢
  rw [skipHeader_cons, if_neg]
  · exact hrest
  · rintro (hshort | hflags)
    · simp only [List.length_cons, List.length_append] at hlength hshort
      omega
    · exact hsound (.inr hflags)

end Following

/-! ### Members -/

/-- Whether octets are one member with a content. -/
def IsMember (octets content : List UInt8) : Prop := member? octets = some (content, [])

instance (octets content : List UInt8) : Decidable (IsMember octets content) :=
  inferInstanceAs (Decidable (_ = _))

/-- **A member ends by itself**: what follows is left over. -/
theorem member?_append {octets content rest : List UInt8} (h : member? octets = some (content, rest))
    (more : List UInt8) : member? (octets ++ more) = some (content, rest ++ more) := by
  obtain ⟨compressed, hheader, h⟩ := Option.bind_eq_some_iff.mp h
  obtain ⟨⟨out, bits⟩, hinflate, h⟩ := Option.bind_eq_some_iff.mp h
  dsimp only at h
  have hinflate' : inflate (bitsOf (compressed ++ more)) = some (out, bits ++ bitsOf more) := by
    rw [bitsOf_append]
    refine inflate_append hinflate ?_
    rw [length_bitsOf]
    exact Nat.dvd_mul_right 8 more.length
  have hplace : (compressed ++ more).length - (bits ++ bitsOf more).length / 8 =
      compressed.length - bits.length / 8 := by
    rw [List.length_append, List.length_append, length_bitsOf,
      Nat.add_mul_div_left _ _ (by decide), Nat.add_sub_add_right]
  have htrailer : (compressed ++ more).drop (compressed.length - bits.length / 8) =
      compressed.drop (compressed.length - bits.length / 8) ++ more :=
    List.drop_append_of_le_length (Nat.sub_le _ _)
  unfold member?
  rw [skipsAlike_skipHeader more hheader]
  show (inflate _ >>= _) = _
  rw [hinflate']
  show (if _ then none else _) = _
  rw [hplace, htrailer]
  generalize compressed.drop (compressed.length - bits.length / 8) = trailer at h ⊢
  split at h
  · cases h
  rename_i hlong
  have hcheck : (trailer ++ more).take 4 = trailer.take 4 :=
    List.take_append_of_le_length (by omega)
  have hsize : ((trailer ++ more).drop 4).take 4 = (trailer.drop 4).take 4 := by
    rw [List.drop_append_of_le_length (by omega),
      List.take_append_of_le_length (by rw [List.length_drop]; omega)]
  split at h
  · rename_i hsound
    cases h
    rw [if_neg (by rw [List.length_append]; omega), hcheck, hsize]
    show (if _ then some _ else none) = _
    rw [if_pos hsound, List.drop_append_of_le_length (by omega)]
  · cases h

/-- A file of members is read as its first one. -/
theorem content?_flatten {members contents : List (List UInt8)}
    (h : List.Forall₂ IsMember members contents) : content? members.flatten = contents.head? := by
  cases h with
  | nil => rfl
  | cons hfirst _ =>
    rw [List.flatten_cons, content?, member?_append hfirst]
    rfl

end Gzip

/-! ### Taking them in -/

theorem DumpFile.lines_members (path : String) {name : String}
    (hname : Dump.isCompressed name = true) {members texts : List (List UInt8)}
    (hmembers : List.Forall₂ Gzip.IsMember members texts) :
    (DumpFile.mk path name members.flatten).lines =
      match texts.head? with
      | some text => (Dump.splitLines text).map Dump.lineText
      | none => [.error .io] := by
  have hcontent := Gzip.content?_flatten hmembers
  cases hhead : texts.head? with
  | none => simp only [lines, if_pos hname, hcontent, hhead]
  | some text => simp only [lines, if_pos hname, hcontent, hhead]

/-- The triples that the dump of a path contributes. -/
def Store.triplesOf (s : Store) (path : String) : List Triple :=
  (s.rows.filter fun row => row.dump = dumpId path).map Row.triple

theorem Store.triplesOf_withDump (s : Store) {r : DumpRecord} {path : String}
    (hr : r.id = dumpId path) (ts : List Triple) :
    (s.withDump r ts).triplesOf path = ts.eraseDups := by
  unfold triplesOf
  rw [← hr, ownRows_withDump, List.map_map]
  exact List.map_id _

/-- The digest in a record makes no difference to whether it can be kept, nor to the rows. -/
theorem Store.record_hash (s : Store) (r : DumpRecord) (hash : String) :
    (s.record { r with hash }).map Store.rows = (s.record r).map Store.rows := by
  unfold record
  split_ifs <;> rfl

namespace Database
variable {α : Type} {change change' : Database → Except Failure (Store × α)}

/-- Changes that agree on the outcome and the rows do so on a file as well. -/
theorem changing_rows {d : Database}
    (h : (change d).map (fun x => (x.1.rows, x.2)) = (change' d).map (fun x => (x.1.rows, x.2))) :
    (changing change d).1 = (changing change' d).1 ∧
      (changing change d).2.store.rows = (changing change' d).2.store.rows := by
  unfold changing
  cases hx : change d with
  | error failure =>
    cases hx' : change' d with
    | error failure' =>
      rw [hx, hx'] at h
      cases h
      exact ⟨rfl, rfl⟩
    | ok x' =>
      rw [hx, hx'] at h
      cases h
  | ok x =>
    cases hx' : change' d with
    | error failure' =>
      rw [hx, hx'] at h
      cases h
    | ok x' =>
      rw [hx, hx'] at h
      obtain ⟨hrows, ha⟩ := Prod.mk.inj (Except.ok.inj h)
      dsimp only
      rw [hrows, ha]
      split
      · exact ⟨rfl, hrows⟩
      · exact ⟨rfl, rfl⟩

variable {dump dump' : DumpFile}

/-- Dumps of one path with the same lines come to the same. -/
theorem ingest_of_lines (hlines : dump.lines = dump'.lines) (hpath : dump.path = dump'.path)
    (options : IngestOptions) (now : Nat) (d : Database) :
    (ingest options now dump d).1 = (ingest options now dump' d).1 ∧
      (ingest options now dump d).2.store.rows = (ingest options now dump' d).2.store.rows := by
  have htaken : d.store.takeIn options dump = d.store.takeIn options dump' := by
    rw [Store.takeIn_eq, Store.takeIn_eq, hpath]
    unfold DumpFile.readLines
    rw [hlines]
  apply changing_rows
  rw [htaken]
  refine map_bind_congr fun _ => map_bind_congr fun taken => map_bind_congr fun _ => ?_
  have hrecord : dump.recordAt now taken.2 =
      { dump'.recordAt now taken.2 with hash := contentHash dump.octets } := by
    unfold DumpFile.recordAt
    rw [hpath]
  have hkept := taken.1.record_hash (dump'.recordAt now taken.2) (contentHash dump.octets)
  rw [← hrecord] at hkept
  have hpair (x : Except Failure Store) : (x >>= fun s => pure (s, taken.2)).map
      (fun x => (x.1.rows, x.2)) = (x.map Store.rows).map (·, taken.2) := by
    cases x <;> rfl
  rw [hpair, hpair, hkept]

theorem ingest_triples (hlines : dump.lines = dump'.lines) {options : IngestOptions}
    {now now' : Nat} {d d' after after' : Database} {stats stats' : IngestStats}
    (h : ingest options now dump d = (.ok stats, after))
    (h' : ingest options now' dump' d' = (.ok stats', after')) :
    stats = stats' ∧ after.store.triplesOf dump.path = after'.store.triplesOf dump'.path := by
  obtain ⟨_, lines, hread, rfl, _, _, rfl⟩ := (ingest_ok_iff (.of_ingest h)).mp h
  obtain ⟨_, lines', hread', rfl, _, _, rfl⟩ := (ingest_ok_iff (.of_ingest h')).mp h'
  have hsame : lines = lines' := by
    unfold DumpFile.readLines at hread hread'
    rw [hlines, hread'] at hread
    exact (Except.ok.inj hread).symm
  subst hsame
  have hid (x : DumpFile) (time : Nat) (counts : IngestStats) :
      (x.recordAt time counts).id = dumpId x.path := rfl
  exact ⟨rfl, (d.store.triplesOf_withDump (hid dump now _) _).trans
    (d'.store.triplesOf_withDump (hid dump' now' _) _).symm⟩

/-- **What a compressed dump is taken in as.**  The file consists of members, one for each text.  If
there is none, it fails and changes nothing.  Otherwise it comes to the same as a plain dump of the
first text: under one path on one index, the outcome and the rows are the same, also where it fails;
and wherever both are taken in, the counts and the triples are the same. -/
theorem ingest_members {members texts : List (List UInt8)}
    (hmembers : List.Forall₂ Gzip.IsMember members texts) {name plain : String}
    (hname : Dump.isCompressed name = true) (hplain : Dump.isCompressed plain = false)
    (options : IngestOptions) (now now' : Nat) :
    (texts = [] → ∀ path d, ∃ failure,
      ingest options now ⟨path, name, members.flatten⟩ d = (.error failure, d)) ∧
    ∀ text, texts.head? = some text →
      (∀ path d,
        (ingest options now ⟨path, name, members.flatten⟩ d).1 =
          (ingest options now ⟨path, plain, text⟩ d).1 ∧
        (ingest options now ⟨path, name, members.flatten⟩ d).2.store.rows =
          (ingest options now ⟨path, plain, text⟩ d).2.store.rows) ∧
      ∀ path path' d d' stats stats' after after',
        ingest options now ⟨path, name, members.flatten⟩ d = (.ok stats, after) →
        ingest options now' ⟨path', plain, text⟩ d' = (.ok stats', after') →
        stats = stats' ∧ after.store.triplesOf path = after'.store.triplesOf path' := by
  constructor
  · rintro rfl path d
    have hlines := DumpFile.lines_members path hname hmembers
    rcases hdone : ingest options now ⟨path, name, members.flatten⟩ d with ⟨outcome, after⟩
    cases outcome with
    | error failure => exact ⟨failure, by rw [changing_error hdone]⟩
    | ok stats =>
      obtain ⟨_, lines, hread, _⟩ := (ingest_ok_iff (.of_ingest hdone)).mp hdone
      unfold DumpFile.readLines at hread
      rw [hlines] at hread
      cases hread
  · intro text htext
    have hlines (path path' : String) :
        (DumpFile.mk path name members.flatten).lines = (DumpFile.mk path' plain text).lines := by
      rw [DumpFile.lines_members path hname hmembers, htext]
      unfold DumpFile.lines
      rw [if_neg (by rw [hplain]; exact Bool.false_ne_true)]
    constructor
    · intro path d
      exact ingest_of_lines (hlines path path) rfl options now d
    · intro path path' d d' stats stats' after after' hdone hdone'
      exact ingest_triples (hlines path path') hdone hdone'

/-- Two members, each with one line, which is stored as it is. -/
def twoMembers : List (List UInt8) := [
  [31, 139, 8, 0, 0, 0, 0, 0, 0, 255, 1, 8, 0, 247, 255, 109, 46, 49, 32, 110, 32, 65, 10,
    68, 130, 170, 85, 8, 0, 0, 0],
  [31, 139, 8, 0, 0, 0, 0, 0, 0, 255, 1, 8, 0, 247, 255, 109, 46, 50, 32, 110, 32, 66, 10,
    41, 163, 19, 248, 8, 0, 0, 0]]

/-- The lines. -/
def twoTexts : List (List UInt8) :=
  [[109, 46, 49, 32, 110, 32, 65, 10], [109, 46, 50, 32, 110, 32, 66, 10]]

theorem isMember_twoMembers : List.Forall₂ Gzip.IsMember twoMembers twoTexts :=
  .cons (by decide +kernel) (.cons (by decide +kernel) .nil)

theorem ingest_members_twice :
    List.Forall₂ Gzip.IsMember twoMembers twoTexts ∧
    Dump.isCompressed "a.nt.gz" = true ∧ Dump.isCompressed "a.nt" = false ∧
    (ingest {} 1 ⟨"a.nt.gz", "a.nt.gz", twoMembers.flatten⟩ Migration.fresh).1 = .ok ⟨1, 1, 0⟩ ∧
    (ingest {} 1 ⟨"a.nt.gz", "a.nt.gz", twoMembers.flatten⟩ Migration.fresh).2.store.rows =
      [⟨⟨"m.1", "n", "A"⟩, dumpId "a.nt.gz"⟩] := by
  have hname : Dump.isCompressed "a.nt.gz" = true := by decide +kernel
  have hplain : Dump.isCompressed "a.nt" = false := by decide +kernel
  have hfirst := (ingest_members isMember_twoMembers hname hplain {} 1 1).2 _ rfl
  obtain ⟨houtcome, hrows⟩ := hfirst.1 "a.nt.gz" Migration.fresh
  refine ⟨isMember_twoMembers, hname, hplain, houtcome.trans ?_, hrows.trans ?_⟩ <;> decide +kernel

/-- Members after the first are lost, and nothing tells. -/
theorem later_members_lost :
    (ingest {} 1 ⟨"a.nt.gz", "a.nt.gz", twoMembers.flatten⟩ Migration.fresh).1 = .ok ⟨1, 1, 0⟩ ∧
    (ingest {} 1 ⟨"a.nt", "a.nt", twoTexts.flatten⟩ Migration.fresh).1 = .ok ⟨2, 2, 0⟩ := by
  decide +kernel

end Database

end GraphAnswers
