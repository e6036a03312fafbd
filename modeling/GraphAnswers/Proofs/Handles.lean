import GraphAnswers.Proofs.NewIndex
import GraphAnswers.Proofs.Registry
import Mathlib.Data.List.Induction
/-!
# Indexes that are held on to

Whoever has asked a registry for an index may hold on to it and look things up through it later,
without asking again.  All such handles share one cache.  A look-up through a handle may find the
index in a state that the registry has not seen, and it is remembered like any other.

When the registry is asked again, it compares the present state with the one seen last, and that tells
only whether they differ *now*.  If the index has meanwhile come back to the state seen, as when a
dump is taken in and removed again, the look-ups in between stay remembered, and they are out of
date (`Holding.lookUp_goes_stale`).  If there were none in between, or if the present state is
another one, a look-up right after the registry was asked is answered from the rows that the index
holds (`Holding.lookUp_current`).
-/
namespace GraphAnswers

namespace Registry

/-- Looks up through a handle of an index.  All handles of an open index are the same. -/
def lookUpHeld (r : Registry) (files : FileTree) (name : String) (lookup : Lookup) :
    Except Failure (SortedSet String) × Registry :=
  match r.opened.find? name with
  | some x => r.consult files name ((indexFile? r.root name).getD "") x (.values lookup)
  | none => (.error (.indexUnavailable name), r)

/-- The registry, with nothing remembered of an index. -/
def forget (r : Registry) (name : String) : Registry :=
  match r.opened.find? name with
  | some x => r.keep name { x with cache := x.cache.clear }
  | none => r

end Registry

/-- The files, and the registry that gives out an index. -/
structure Holding where
  files : FileTree
  registry : Registry

namespace Holding

/-- What is called upon an index. -/
inductive Call where
  /-- The registry is asked for the index. -/
  | get
  /-- A look-up through a handle. -/
  | lookUp (lookup : Lookup)
  /-- A dump is taken in at a time, or fails to be. -/
  | ingest (options : IngestOptions) (time : Nat) (dump : DumpFile)
  /-- Dumps are removed. -/
  | delete (dumps : List String)

/-- When a dump is taken in. -/
def Call.time? : Call → Option Nat
  | ingest _ time _ => some time
  | _ => none

/-- The times at which dumps are taken in. -/
def times (calls : List Call) : List Nat := calls.filterMap Call.time?

/-- What a call upon the index of a name and at a path leaves. -/
def after (name path : String) (h : Holding) : Call → Holding
  | .get => { h with registry := (h.registry.get h.files name).2 }
  | .lookUp lookup => { h with registry := (h.registry.lookUpHeld h.files name lookup).2 }
  | .ingest options time dump =>
    { h with files := (h.files.onIndex path (Database.ingest options time dump)).2 }
  | .delete dumps => { h with files := (h.files.removeDumps path dumps).2 }

/-- What calls leave, one after another. -/
def afterAll (name path : String) (h : Holding) (calls : List Call) : Holding :=
  calls.foldl (after name path) h

/-- What a look-up through a handle gives. -/
def lookUp (h : Holding) (name : String) (lookup : Lookup) : Except Failure (SortedSet String) :=
  (h.registry.lookUpHeld h.files name lookup).1

/-- Whether the registry has given the index out in another state than it is in now. -/
def IsBehind (name path : String) (h : Holding) : Prop :=
  ∃ x d, h.registry.opened.find? name = some x ∧ h.files.database? path = some d ∧
    d.state ≠ .ok x.state

instance (name path : String) (h : Holding) : Decidable (h.IsBehind name path) :=
  match hfind : h.registry.opened.find? name, hd : h.files.database? path with
  | some x, some d =>
    if hstate : d.state = .ok x.state then
      isFalse fun ⟨x', d', hx', hd', hne⟩ => by
        cases hfind.symm.trans hx'
        cases hd.symm.trans hd'
        exact hne hstate
    else isTrue ⟨x, d, hfind, hd, hstate⟩
  | none, _ => isFalse fun ⟨_, _, hx, _, _⟩ => by cases hfind.symm.trans hx
  | some _, none => isFalse fun ⟨_, _, _, hd', _⟩ => by cases hd.symm.trans hd'

/-- **A stray look-up**: the registry was behind when it was made, and nothing has been forgotten
since, because the registry was not behind whenever it was asked. -/
inductive Strayed (name path : String) (first : Holding) : List Call → Prop
  | lookUp {calls : List Call} (lookup : Lookup)
      (behind : (first.afterAll name path calls).IsBehind name path) :
      Strayed name path first (calls ++ [.lookUp lookup])
  | later {calls : List Call} {call : Call} (strayed : Strayed name path first calls)
      (kept : call = .get → ¬(first.afterAll name path calls).IsBehind name path) :
      Strayed name path first (calls ++ [call])

end Holding

/-! ### What is kept besides what is remembered -/

theorem OpenIndex.Fits.cleared {x : OpenIndex} {files : FileTree} {place : Location} {s : Store}
    (h : x.Fits files place s) : OpenIndex.Fits { x with cache := x.cache.clear } files place s :=
  ⟨h.state, LookupCache.agrees_clear _ _, h.held⟩

namespace Registry

open FileTree

variable {r : Registry} {files : FileTree} {name path : String} {o : Opening} {d : Database}
  {now : Nat} {x y : OpenIndex}

theorem find?_keep : (r.keep name x).opened.find? name = some x := by
  unfold keep
  rw [SortedMap.find?_insert_self]

theorem keep_keep : (r.keep name x).keep name y = r.keep name y := by
  unfold keep
  rw [SortedMap.insert_insert]

theorem find?_forget (h : r.opened.find? name = some x) :
    (r.forget name).opened.find? name = some { x with cache := x.cache.clear } := by
  unfold forget
  rw [h]
  exact find?_keep

theorem forget_of_none (h : r.opened.find? name = none) : r.forget name = r := by
  unfold forget
  rw [h]

theorem keep_forget : (r.forget name).keep name y = r.keep name y := by
  unfold forget
  split
  · exact keep_keep
  · rfl

theorem forget_keep :
    (r.keep name x).forget name = r.keep name { x with cache := x.cache.clear } := by
  unfold forget
  rw [find?_keep]
  exact keep_keep

@[simp] theorem forget_root : (r.forget name).root = r.root := by
  unfold forget
  split <;> rfl

@[simp] theorem forget_patience : (r.forget name).patience = r.patience := by
  unfold forget
  split <;> rfl

@[simp] theorem forget_capacity : (r.forget name).capacity = r.capacity := by
  unfold forget
  split <;> rfl

theorem isAble_forget : (r.forget name).IsAble ↔ r.IsAble := by
  unfold IsAble
  rw [forget_capacity, forget_patience]

/-- An index is in service with less remembered of it. -/
theorem Serves.forget (h : r.Serves files name path o d now) :
    (r.forget name).Serves files name path o d now := by
  cases hfind : r.opened.find? name with
  | none => rwa [forget_of_none hfind]
  | some x =>
    obtain ⟨hable, seen, time, htime, hseen, htracks, hfits⟩ := h.follows x hfind
    unfold Registry.forget
    rw [hfind]
    exact h.keepSeen hable htime hseen htracks hfits.cleared

/-- **Asking for an index that is kept.**  Whatever is remembered of it, it is in service but for
that; and if its state is not the one seen, everything is forgotten. -/
theorem Serves.get_kept (h : (r.forget name).Serves files name path o d now)
    (hfind : r.opened.find? name = some x) :
    ∃ y, r.get files name = (.ok y, r.keep name y) ∧ d.store.state = .ok y.state ∧
      ((r.keep name y).forget name).Serves files name path o d now ∧
      (d.store.state ≠ .ok x.state → y.Fits files o.place d.store) := by
  obtain ⟨hable, _, _, _, _, _, hfits⟩ := h.follows _ (find?_forget hfind)
  obtain ⟨state, hstate⟩ : ∃ state, d.store.state = .ok state := ⟨_, h.sound.state_eq⟩
  have hnamed := h.named
  have hfile : Registry.fileOf files x path = .ok (files.handle o.place) := h.fileOf hfits.held
  have hread := h.readHeld Database.state
  rw [if_pos hable.2, forget_patience, h.tables.state, hstate] at hread
  rw [forget_root] at hnamed
  unfold Registry.get
  rw [hnamed]
  dsimp only
  rw [if_pos h.isFile, hfind]
  dsimp only
  unfold Registry.revisit
  rw [hfile]
  dsimp only
  rw [hread]
  dsimp only
  by_cases hsame : x.state = state
  · rw [if_pos hsame]
    have hcleared : OpenIndex.Fits
        { x with cache := x.cache.clear, held := some (files.handle o.place) } files o.place d.store :=
      ⟨hsame ▸ hstate, LookupCache.agrees_clear _ _, .inr rfl⟩
    refine ⟨_, rfl, hsame ▸ hstate, ?_, fun hne => absurd (hsame ▸ hstate) hne⟩
    rw [forget_keep]
    exact keep_forget (r := r) ▸ h.keep hable hcleared
  · rw [if_neg hsame]
    have hnew : OpenIndex.Fits ⟨x.cache.clear, state, none⟩ files o.place d.store :=
      ⟨hstate, LookupCache.agrees_clear _ _, .inl rfl⟩
    refine ⟨_, rfl, hstate, ?_, fun _ => hnew⟩
    rw [forget_keep]
    exact keep_forget (r := r) ▸ h.keep hable hnew.cleared

/-- A look-up through a handle changes nothing but what is remembered. -/
theorem Serves.lookUpHeld_kept (h : (r.forget name).Serves files name path o d now)
    (lookup : Lookup) :
    ((r.lookUpHeld files name lookup).2.forget name).Serves files name path o d now := by
  unfold Registry.lookUpHeld
  cases hfind : r.opened.find? name with
  | none => exact h
  | some x =>
    obtain ⟨hable, seen, time, htime, hseen, htracks, hfits⟩ := h.follows _ (find?_forget hfind)
    have hnamed := h.named
    have hfile : Registry.fileOf files x path = .ok (files.handle o.place) := h.fileOf hfits.held
    rw [forget_root] at hnamed
    dsimp only
    rw [hnamed, Option.getD_some]
    unfold Registry.consult
    rw [hfile]
    dsimp only [Inquiry.values]
    rw [forget_keep]
    exact keep_forget (r := r) ▸
      h.keepSeen hable htime hseen htracks ⟨hfits.state, LookupCache.agrees_clear _ _, .inr rfl⟩

theorem IsAble.lookUpHeld (h : r.IsAble) (lookup : Lookup) :
    (r.lookUpHeld files name lookup).2.IsAble := by
  unfold Registry.lookUpHeld
  split
  · unfold Registry.consult
    split <;> exact h
  · exact h

theorem Serves.later {later : Nat} (h : r.Serves files name path o d now) (hle : now ≤ later) :
    r.Serves files name path o d later where
  named := h.named
  holds := h.holds
  located := h.located
  tables := h.tables
  sound := { h.sound with earlier := fun e he => Nat.lt_of_lt_of_le (h.sound.earlier e he) hle }
  follows := by
    intro x hx
    obtain ⟨hable, seen, time, htime, hrest⟩ := h.follows x hx
    exact ⟨hable, seen, time, Nat.le_trans htime hle, hrest⟩

/-- A look-up through a handle of an index in the state that was seen is answered from its rows. -/
theorem Serves.lookUpHeld (h : r.Serves files name path o d now)
    (hfind : r.opened.find? name = some x) (hx : x.Fits files o.place d.store) (lookup : Lookup) :
    (r.lookUpHeld files name lookup).1 = d.store.index.property lookup ∧
      (r.lookUpHeld files name lookup).2.Serves files name path o d now := by
  have hable := (h.follows x hfind).1
  unfold Registry.lookUpHeld
  rw [hfind]
  dsimp only
  rw [h.named, Option.getD_some]
  obtain ⟨hfound, hserves, _⟩ := h.consult hable hx (.values lookup)
  exact ⟨hfound, hserves⟩

end Registry

/-! ### What holds all along -/

namespace Holding

variable {name path : String} {first h : Holding} {calls : List Call} {strayed strayed' : Prop}
  {now : Nat}

/-- **The invariant**: the index is in service, but for what is remembered of it; and if there was no
stray look-up, that is in order as well. -/
structure InOrder (name path : String) (h : Holding) (strayed : Prop) (now : Nat) : Prop where
  able : h.registry.IsAble
  serves : ∃ o d, (h.registry.forget name).Serves h.files name path o d now ∧
    (¬strayed → h.registry.Serves h.files name path o d now)

theorem InOrder.imp (hi : InOrder name path h strayed now) (himp : strayed → strayed') :
    InOrder name path h strayed' now := by
  obtain ⟨able, o, d, hkept, hserves⟩ := hi
  exact ⟨able, o, d, hkept, fun hnot => hserves fun hs => hnot (himp hs)⟩

/-- Whether the registry is behind depends on what it keeps. -/
theorem isBehind_iff {r : Registry} {o : FileTree.Opening} {d : Database}
    (hs : r.Serves h.files name path o d now) :
    h.IsBehind name path ↔
      ∃ x, h.registry.opened.find? name = some x ∧ d.store.state ≠ .ok x.state := by
  constructor
  · rintro ⟨x, d', hfind, hd, hne⟩
    obtain rfl : d = d' := Option.some.inj (hs.holds.database?.symm.trans hd)
    exact ⟨x, hfind, hs.tables.state ▸ hne⟩
  · rintro ⟨x, hfind, hne⟩
    exact ⟨x, d, hfind, hs.holds.database?, hs.tables.state.symm ▸ hne⟩

/-- Asking for the index gives it out in its present state, and forgets stray look-ups if the registry
is behind. -/
theorem InOrder.exists_get (hi : InOrder name path h strayed now) :
    ∃ o d y, h.registry.get h.files name = (.ok y, h.registry.keep name y) ∧
      d.store.state = .ok y.state ∧
      ((h.registry.keep name y).forget name).Serves h.files name path o d now ∧
      (¬(strayed ∧ ¬h.IsBehind name path) →
        (h.registry.keep name y).Serves h.files name path o d now) := by
  obtain ⟨hable, o, d, hkept, hserves⟩ := hi
  cases hfind : h.registry.opened.find? name with
  | none =>
    rw [Registry.forget_of_none hfind] at hkept
    obtain ⟨y, hget, hy⟩ := hkept.get hable
    have hkeep := hkept.keep hable hy
    exact ⟨o, d, y, hget, hy.state, hkeep.forget, fun _ => hkeep⟩
  | some x =>
    obtain ⟨y, hget, hstate, hforgotten, hy⟩ := hkept.get_kept hfind
    refine ⟨o, d, y, hget, hstate, hforgotten, fun hnot => ?_⟩
    by_cases hstrayed : strayed
    · have hbehind : h.IsBehind name path := by_contra fun hb => hnot ⟨hstrayed, hb⟩
      obtain ⟨x', hfind', hne⟩ := (isBehind_iff hkept).mp hbehind
      cases hfind.symm.trans hfind'
      have hable' : (h.registry.forget name).IsAble := Registry.isAble_forget.mpr hable
      exact Registry.keep_forget (r := h.registry) ▸ hkept.keep hable' (hy hne)
    · obtain ⟨z, hget', hz⟩ := (hserves hstrayed).get hable
      obtain rfl : y = z := Except.ok.inj (congrArg Prod.fst (hget.symm.trans hget'))
      exact (hserves hstrayed).keep hable hz

theorem InOrder.get (hi : InOrder name path h strayed now) :
    InOrder name path (h.after name path .get) (strayed ∧ ¬h.IsBehind name path) now := by
  obtain ⟨o, d, y, hget, _, hkept, hserves⟩ := hi.exists_get
  unfold after
  rw [hget]
  exact ⟨hi.able, o, d, hkept, hserves⟩

/-- A look-up strays if the registry is behind. -/
theorem InOrder.lookUp (hi : InOrder name path h strayed now) (lookup : Lookup) :
    InOrder name path (h.after name path (.lookUp lookup)) (strayed ∨ h.IsBehind name path) now := by
  obtain ⟨hable, o, d, hkept, hserves⟩ := hi
  refine ⟨hable.lookUpHeld lookup, o, d, hkept.lookUpHeld_kept lookup, fun hnot => ?_⟩
  obtain ⟨hs, hb⟩ := not_or.mp hnot
  cases hfind : h.registry.opened.find? name with
  | none =>
    show (h.registry.lookUpHeld h.files name lookup).2.Serves _ _ _ _ _ _
    unfold Registry.lookUpHeld
    rw [hfind]
    exact hserves hs
  | some x =>
    have hstate : d.store.state = .ok x.state :=
      by_contra fun hne => hb ((isBehind_iff hkept).mpr ⟨x, hfind, hne⟩)
    exact ((hserves hs).lookUpHeld hfind ((hserves hs).fits_present hfind hstate) lookup).2

/-- There is one index in a file. -/
theorem inOrder_of_serves {o : FileTree.Opening} (hable : h.registry.IsAble)
    (hkept : ∃ d, (h.registry.forget name).Serves h.files name path o d now)
    (hserves : ¬strayed → ∃ d, h.registry.Serves h.files name path o d now) :
    InOrder name path h strayed now := by
  obtain ⟨d, hkept⟩ := hkept
  refine ⟨hable, o, d, hkept, fun hnot => ?_⟩
  obtain ⟨d', hserves⟩ := hserves hnot
  obtain rfl : d = d' := Option.some.inj (hkept.holds.database?.symm.trans hserves.holds.database?)
  exact hserves

theorem InOrder.ingest (hi : InOrder name path h strayed now) {options : IngestOptions} {time : Nat}
    {dump : DumpFile} (hlater : now ≤ time) :
    InOrder name path (h.after name path (.ingest options time dump)) strayed (time + 1) := by
  obtain ⟨hable, o, d, hkept, hserves⟩ := hi
  unfold after
  dsimp only
  rcases hrun : h.files.onIndex path (Database.ingest options time dump) with ⟨outcome, files⟩
  cases outcome with
  | ok stats =>
    exact inOrder_of_serves hable (hkept.takeIn hlater hrun)
      fun hnot => (hserves hnot).takeIn hlater hrun
  | error failure =>
    have hle : now ≤ time + 1 := Nat.le_succ_of_le hlater
    exact inOrder_of_serves hable ⟨d, (hkept.takeIn_error hrun).later hle⟩
      fun hnot => ⟨d, ((hserves hnot).takeIn_error hrun).later hle⟩

theorem InOrder.delete (hi : InOrder name path h strayed now) (dumps : List String) :
    InOrder name path (h.after name path (.delete dumps)) strayed now := by
  obtain ⟨hable, o, d, hkept, hserves⟩ := hi
  exact inOrder_of_serves hable (hkept.removeDumps rfl) fun hnot => (hserves hnot).removeDumps rfl

theorem afterAll_concat (h : Holding) (calls : List Call) (call : Call) :
    h.afterAll name path (calls ++ [call]) = (h.afterAll name path calls).after name path call := by
  unfold afterAll
  rw [List.foldl_append]
  rfl

/-- Calls keep everything in order if every dump is taken in at a later time than those before. -/
theorem inOrder_afterAll (hstart : InOrder name path first False 0)
    (htimes : (times calls).Pairwise (· < ·)) :
    ∃ now, (∀ later, (∀ time ∈ times calls, time < later) → now ≤ later) ∧
      InOrder name path (first.afterAll name path calls) (Strayed name path first calls) now := by
  induction calls using List.reverseRecOn with
  | nil => exact ⟨0, fun _ _ => Nat.zero_le _, hstart.imp False.elim⟩
  | append_singleton calls call ih =>
    have hsplit : times (calls ++ [call]) = times calls ++ times [call] := List.filterMap_append
    rw [hsplit, List.pairwise_append] at htimes
    obtain ⟨hbefore, _, hlast⟩ := htimes
    obtain ⟨now, hnow, hi⟩ := ih hbefore
    rw [hsplit, afterAll_concat]
    cases call with
    | get =>
      refine ⟨now, fun later hall => hnow later fun time ht => hall time (by simp [ht]), ?_⟩
      exact hi.get.imp fun ⟨hs, hb⟩ => hs.later fun _ => hb
    | lookUp lookup =>
      refine ⟨now, fun later hall => hnow later fun time ht => hall time (by simp [ht]), ?_⟩
      refine (hi.lookUp lookup).imp fun hs => ?_
      rcases hs with hs | hb
      · exact hs.later fun heq => by cases heq
      · exact .lookUp lookup hb
    | ingest options time dump =>
      have hmem : time ∈ times [.ingest options time dump] := List.mem_singleton.mpr rfl
      have hle : now ≤ time := hnow time fun earlier he => hlast earlier he time hmem
      refine ⟨time + 1, fun later hall => hall time (List.mem_append_right _ hmem), ?_⟩
      exact (hi.ingest hle).imp fun hs => hs.later fun heq => by cases heq
    | delete dumps =>
      refine ⟨now, fun later hall => hnow later fun time ht => hall time (by simp [ht]), ?_⟩
      exact (hi.delete dumps).imp fun hs => hs.later fun heq => by cases heq

/-- A registry that has not given out an index that was just made. -/
theorem inOrder_start {t : FileTree} (hnamed : indexFile? first.registry.root name = some path)
    (hable : first.registry.IsAble) (hclosed : first.registry.opened.find? name = none)
    (hmissing : t.isFile path = false)
    (hmade : t.onIndex path Migration.setUp = (.ok (), first.files))
    (hthere : first.files.isFile path = true) : InOrder name path first False 0 := by
  have hchanged : (Migration.setUp .empty).2 ≠ .empty := by
    rw [Migration.setUp_empty]
    decide
  obtain ⟨o, hholds, hlocated⟩ := FileTree.created_of_onIndex hmissing hmade hthere hchanged
  rw [Migration.setUp_empty] at hholds
  have hserves : first.registry.Serves first.files name path o Migration.fresh 0 := by
    refine ⟨hnamed, hholds, hlocated, Migration.fresh_hasTables, Store.sound_empty 0, fun x hx => ?_⟩
    rw [hclosed] at hx
    cases hx
  exact ⟨hable, o, Migration.fresh, hserves.forget, fun _ => hserves⟩

/-! ### Look-ups -/

/-- **A look-up right after the registry was asked is answered from the rows that the index holds**,
whatever was called upon the index before, if no look-up through a handle has strayed or if the index
is in another state than the one seen. -/
theorem lookUp_current {t : FileTree} (hnamed : indexFile? first.registry.root name = some path)
    (hable : first.registry.IsAble) (hclosed : first.registry.opened.find? name = none)
    (hmissing : t.isFile path = false)
    (hmade : t.onIndex path Migration.setUp = (.ok (), first.files))
    (hthere : first.files.isFile path = true) (htimes : (times calls).Pairwise (· < ·))
    (hfresh : ¬Strayed name path first calls ∨
      (first.afterAll name path calls).IsBehind name path) (lookup : Lookup) :
    ∃ d, (first.afterAll name path (calls ++ [.get])).files.database? path = some d ∧
      (first.afterAll name path (calls ++ [.get])).lookUp name lookup = d.index.property lookup := by
  obtain ⟨now, _, hi⟩ := inOrder_afterAll
    (inOrder_start hnamed hable hclosed hmissing hmade hthere) htimes
  obtain ⟨o, d, y, hget, hstate, _, hserves⟩ := hi.exists_get
  have hkeep := hserves fun ⟨hs, hb⟩ => hfresh.elim (· hs) hb
  have hy := hkeep.fits_present Registry.find?_keep hstate
  rw [afterAll_concat]
  unfold after lookUp
  rw [hget]
  refine ⟨d, hkeep.holds.database?, ?_⟩
  rw [(hkeep.lookUpHeld Registry.find?_keep hy lookup).1, hkeep.tables.index]

/-- The labels of a film. -/
def labelsOfJaws : Lookup := ⟨Field.label, "m.1", .subject⟩

/-- An index that holds something, and a registry that has not given it out. -/
def holding (index : Database) : Holding where
  files := FileTree.withIndex index
  registry := { root := ".", capacity := 64 }

/-- The dump of the film. -/
def jawsDump : DumpFile := ⟨"a.nt", "a.nt", FileTree.jaws⟩

/-- The look-up strays, and then the registry is behind. -/
theorem lookUp_current_jaws : ∃ d,
    ((holding Migration.fresh).afterAll "f" "./f.db"
      [.get, .ingest {} 1 jawsDump, .lookUp labelsOfJaws, .get]).files.database? "./f.db" = some d ∧
    ((holding Migration.fresh).afterAll "f" "./f.db"
      [.get, .ingest {} 1 jawsDump, .lookUp labelsOfJaws, .get]).lookUp "f" labelsOfJaws =
        d.index.property labelsOfJaws := by
  have hbehind : ((holding Migration.fresh).afterAll "f" "./f.db"
      [.get, .ingest {} 1 jawsDump, .lookUp labelsOfJaws]).IsBehind "f" "./f.db" := by
    decide +kernel
  exact lookUp_current (by decide +kernel) (by decide) rfl (by decide +kernel)
    FileTree.onIndex_oneDump (by decide +kernel) (by decide) (.inr hbehind) labelsOfJaws

/-- Whether every look-up right after the registry was asked is answered from the rows that the index
holds. -/
def AlwaysCurrent (name path : String) (first : Holding) : Prop :=
  ∀ calls, (times calls).Pairwise (· < ·) → ∀ lookup d,
    (first.afterAll name path (calls ++ [.get])).files.database? path = some d →
    (first.afterAll name path (calls ++ [.get])).lookUp name lookup = d.index.property lookup

/-- An index with a row of a dump that is not recorded. -/
def unrecorded : Database :=
  { Migration.fresh with store := { rows := [⟨⟨"m.1", Field.label, "Jaws @en"⟩, dumpId "a.nt"⟩] } }

/-- **A look-up may go stale**: when a dump is taken in and removed again and a look-up was made in
between; and when rows are removed that no record counts, without a look-up in between. -/
theorem lookUp_goes_stale :
    ¬AlwaysCurrent "f" "./f.db" (holding Migration.fresh) ∧
      ¬AlwaysCurrent "f" "./f.db" (holding unrecorded) := by
  constructor
  · intro h
    have hcurrent := h [.get, .ingest {} 1 jawsDump, .lookUp labelsOfJaws, .delete ["a.nt"]]
      (by decide) labelsOfJaws Migration.fresh (by decide +kernel)
    have hstale : ((holding Migration.fresh).afterAll "f" "./f.db" ([.get, .ingest {} 1 jawsDump,
        .lookUp labelsOfJaws, .delete ["a.nt"]] ++ [.get])).lookUp "f" labelsOfJaws =
          .ok (.ofList ["Jaws @en"]) := by
      decide +kernel
    cases hcurrent.symm.trans hstale
  · intro h
    have hcurrent := h [.get, .lookUp labelsOfJaws, .delete ["a.nt"]]
      List.Pairwise.nil labelsOfJaws Migration.fresh (by decide +kernel)
    have hstale : ((holding unrecorded).afterAll "f" "./f.db" ([.get, .lookUp labelsOfJaws,
        .delete ["a.nt"]] ++ [.get])).lookUp "f" labelsOfJaws = .ok (.ofList ["Jaws @en"]) := by
      decide +kernel
    cases hcurrent.symm.trans hstale

end Holding

end GraphAnswers
