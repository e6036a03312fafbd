import GraphAnswers.Proofs.CachedSet
import GraphAnswers.Proofs.Lookups
import GraphAnswers.Proofs.Repetitions
/-!
# The look-ups that a cache remembers

A cache remembers the look-ups that succeeded most recently, as many as it has room for, and passes
on the others (`CachedSet.remembers_most_recent`).  Hence a larger cache remembers all that a
smaller one does and passes no more look-ups on.  The two are not in step, for one may have to pass
a look-up on that the other answers from memory; but they find the same look-ups to succeed, since a
set into which triples are only inserted goes on answering what it has answered.  So neither is
compared with the other: each is compared with the list of the look-ups that succeeded
(`CachedSet.Trail`).
-/
namespace GraphAnswers

/-- Whether a look-up succeeds. -/
def Index.Answers (index : Index) (lookup : Lookup) : Prop :=
  ∃ found, index.property lookup = .ok found

/-- **What a set has answered it goes on answering** when a triple is inserted. -/
theorem TripleSet.answers_insert {triples : TripleSet} {lookup : Lookup} (t : Triple)
    (h : triples.index.Answers lookup) : (TripleSet.index (triples.insert t)).Answers lookup := by
  obtain ⟨field, anchor, role⟩ := lookup
  obtain ⟨found, hfound⟩ := h
  cases role with
  | subject =>
    obtain ⟨rfl, value, hvalue⟩ := nonEmpty_ok_iff.mp hfound
    obtain ⟨object, hmem, hshown⟩ := mem_objectsOf.mp hvalue
    have hstill : value ∈ TripleSet.objectsOf (triples.insert t) field anchor :=
      mem_objectsOf.mpr ⟨object, SortedSet.mem_insert.mpr (.inr hmem), hshown⟩
    exact ⟨_, nonEmpty_ok_iff.mpr ⟨rfl, value, hstill⟩⟩
  | object =>
    obtain ⟨rfl, subject, hsubject⟩ := nonEmpty_ok_iff.mp hfound
    have hstill : subject ∈ TripleSet.subjectsOf (triples.insert t) field anchor :=
      mem_subjectsOf.mpr (SortedSet.mem_insert.mpr (.inr (mem_subjectsOf.mp hsubject)))
    exact ⟨_, nonEmpty_ok_iff.mpr ⟨rfl, subject, hstill⟩⟩

/-! ### One look-up through a cache -/

namespace LookupCache

variable {c : LookupCache} {index : Index} {lookup : Lookup} {found : SortedSet String}

/-- The look-ups that are remembered, the most recent first. -/
def keys (c : LookupCache) : List Lookup := c.recent.map Prod.fst

theorem length_keys (c : LookupCache) : c.keys.length = c.size := List.length_map _

theorem find?_eq_none_iff : c.find? lookup = none ↔ lookup ∉ c.keys := by
  unfold find? keys
  rw [Option.map_eq_none_iff, List.find?_eq_none, List.mem_map]
  constructor
  · rintro h ⟨e, he, rfl⟩
    exact h e he (decide_eq_true rfl)
  · intro h e he heq
    exact h ⟨e, he, of_decide_eq_true heq⟩

theorem keys_remember : (c.remember lookup found).keys =
    (lookup :: c.keys.filter fun key => decide (key ≠ lookup)).take c.capacity := by
  unfold remember keys
  rw [List.map_take, List.map_cons, List.filter_map]
  rfl

theorem serve_of_mem (h : lookup ∈ c.keys) :
    ∃ found, ∀ index, c.serve index lookup = (.ok found, c.remember lookup found) := by
  cases hfind : c.find? lookup with
  | none => exact absurd h (find?_eq_none_iff.mp hfind)
  | some found => exact ⟨found, fun index => by rw [serve, hfind]⟩

theorem serve_of_notMem (h : lookup ∉ c.keys) : c.serve index lookup =
    (index.property lookup,
      match index.property lookup with
      | .ok found => { c with passedOn := c.passedOn + 1 }.remember lookup found
      | .error _ => { c with passedOn := c.passedOn + 1 }) := by
  rw [serve, find?_eq_none_iff.mpr h]
  cases index.property lookup <;> rfl

/-- A look-up is passed on just if it is not remembered. -/
theorem passedOn_serve : (c.serve index lookup).2.passedOn =
    c.passedOn + if lookup ∈ c.keys then 0 else 1 := by
  by_cases h : lookup ∈ c.keys
  · obtain ⟨found, hserve⟩ := serve_of_mem h
    rw [hserve, if_pos h]
    rfl
  · rw [serve_of_notMem h, if_neg h]
    cases index.property lookup <;> rfl

theorem capacity_serve : (c.serve index lookup).2.capacity = c.capacity := by
  by_cases h : lookup ∈ c.keys
  · obtain ⟨found, hserve⟩ := serve_of_mem h
    rw [hserve]
    rfl
  · rw [serve_of_notMem h]
    cases index.property lookup <;> rfl

/-- A look-up that succeeds becomes the most recent one, whether or not it was remembered. -/
theorem keys_serve_of_ok (h : (c.serve index lookup).1 = .ok found) :
    (c.serve index lookup).2.keys =
      (lookup :: c.keys.filter fun key => decide (key ≠ lookup)).take c.capacity := by
  by_cases hmem : lookup ∈ c.keys
  · obtain ⟨found, hserve⟩ := serve_of_mem hmem
    rw [hserve]
    exact keys_remember
  · rw [serve_of_notMem hmem] at h ⊢
    dsimp only at h ⊢
    rw [h]
    exact keys_remember

theorem keys_serve_of_error {failure : Failure} (h : (c.serve index lookup).1 = .error failure) :
    (c.serve index lookup).2.keys = c.keys := by
  by_cases hmem : lookup ∈ c.keys
  · obtain ⟨found, hserve⟩ := serve_of_mem hmem
    rw [hserve] at h
    cases h
  · rw [serve_of_notMem hmem] at h ⊢
    dsimp only at h ⊢
    rw [h]
    rfl

/-- If the index answers all that is remembered, a look-up succeeds through the cache just if it
does at the index. -/
theorem serve_ok_iff (hkept : ∀ key ∈ c.keys, index.Answers key) :
    (∃ found, (c.serve index lookup).1 = .ok found) ↔ index.Answers lookup := by
  by_cases h : lookup ∈ c.keys
  · obtain ⟨found, hserve⟩ := serve_of_mem h
    rw [hserve]
    exact iff_of_true ⟨found, rfl⟩ (hkept lookup h)
  · rw [serve_of_notMem h]
    exact Iff.rfl

end LookupCache

namespace CachedSet

/-- A look-up through the cache, an insertion, or a clear. -/
inductive Step where
  | values (lookup : Lookup)
  | topics (term : String) (language : Language)
  | insert (triple : Triple)
  | clear

/-- A step as an event. -/
def Step.event : Step → Event
  | values lookup => .inquire (.values lookup)
  | topics term language => .inquire (.candidates term language)
  | insert triple => .insert triple
  | clear => .clear

/-- A set with its cache, and what has succeeded. -/
structure Trail where
  state : CachedSet
  /-- The look-ups of values that succeeded through the cache since the last clear, the latest
  first, each as often as it did. -/
  answered : List Lookup

namespace Trail

/-- What a step leaves. -/
def after (t : Trail) (step : Step) : Trail where
  state := t.state.after step.event
  answered :=
    match step with
    | .values lookup =>
      match t.state.ask (.values lookup) with
      | .ok _ => lookup :: t.answered
      | .error _ => t.answered
    | .topics _ _ => t.answered
    | .insert _ => t.answered
    | .clear => []

/-- What steps leave of a set and a cache that remembers nothing yet. -/
def ofSteps (triples : TripleSet) (capacity : Nat) (steps : List Step) : Trail :=
  steps.foldl after ⟨start triples capacity, []⟩

/-- The distinct look-ups that succeeded since the last clear, the most recent first. -/
def recent (t : Trail) : List Lookup := t.answered.eraseDups

theorem ofSteps_concat (triples : TripleSet) (capacity : Nat) (steps : List Step) (step : Step) :
    ofSteps triples capacity (steps ++ [step]) = (ofSteps triples capacity steps).after step := by
  unfold ofSteps
  rw [List.foldl_append]
  rfl

theorem state_ofSteps (triples : TripleSet) (capacity : Nat) (steps : List Step) :
    (ofSteps triples capacity steps).state =
      (start triples capacity).afterAll (steps.map Step.event) := by
  induction steps using List.reverseRecOn with
  | nil => rfl
  | append_singleton steps step ih =>
    rw [ofSteps_concat, List.map_append, List.map_singleton, afterAll_concat, ← ih]
    rfl

/-- **The invariant**: the cache remembers the most recent of the look-ups that succeeded, and the
set would answer each of them again. -/
structure Keeps (t : Trail) (capacity : Nat) : Prop where
  capacity_eq : t.state.cache.capacity = capacity
  keys_eq : t.state.cache.keys = t.recent.take capacity
  still : ∀ lookup ∈ t.answered, t.state.triples.index.Answers lookup

variable {t t' : Trail} {capacity larger : Nat}

theorem keeps_start (triples : TripleSet) (capacity : Nat) :
    (⟨start triples capacity, []⟩ : Trail).Keeps capacity :=
  ⟨rfl, List.take_nil.symm, fun _ h => absurd h List.not_mem_nil⟩

/-- What is remembered would be answered again. -/
theorem Keeps.still_keys (h : t.Keeps capacity) :
    ∀ key ∈ t.state.cache.keys, t.state.triples.index.Answers key := by
  intro key hkey
  rw [h.keys_eq] at hkey
  exact h.still key (List.mem_eraseDups.mp (List.mem_of_mem_take hkey))

/-- Whether a look-up succeeds does not depend on the cache. -/
theorem Keeps.ask_ok_iff (h : t.Keeps capacity) {lookup : Lookup} :
    (∃ found, t.state.ask (.values lookup) = .ok found) ↔
      t.state.triples.index.Answers lookup :=
  LookupCache.serve_ok_iff h.still_keys

theorem answered_after_of_ok {lookup : Lookup} {found : SortedSet String}
    (h : t.state.ask (.values lookup) = .ok found) :
    (t.after (.values lookup)).answered = lookup :: t.answered := by
  unfold after
  dsimp only
  rw [h]

theorem answered_after_of_error {lookup : Lookup} {failure : Failure}
    (h : t.state.ask (.values lookup) = .error failure) :
    (t.after (.values lookup)).answered = t.answered := by
  unfold after
  dsimp only
  rw [h]

theorem Keeps.after_of_ok (h : t.Keeps capacity) {lookup : Lookup} {found : SortedSet String}
    (hask : t.state.ask (.values lookup) = .ok found) :
    (t.after (.values lookup)).Keeps capacity := by
  have hanswered := answered_after_of_ok hask
  have hrecent : (t.after (.values lookup)).recent =
      lookup :: t.recent.filter fun key => decide (key ≠ lookup) := by
    rw [recent, hanswered, eraseDups_cons_filter, recent]
  have hkeys : (t.after (.values lookup)).state.cache.keys =
      (lookup :: t.state.cache.keys.filter fun key => decide (key ≠ lookup)).take
        t.state.cache.capacity := LookupCache.keys_serve_of_ok hask
  refine ⟨LookupCache.capacity_serve.trans h.capacity_eq, ?_, ?_⟩
  · rw [hkeys, hrecent, h.keys_eq, h.capacity_eq]
    exact take_cons_filter_ne (nodup_eraseDups _) lookup capacity
  · rw [hanswered, List.forall_mem_cons]
    exact ⟨h.ask_ok_iff.mp ⟨found, hask⟩, h.still⟩

/-- A look-up that fails neither is remembered nor takes the place of one that is. -/
theorem Keeps.after_of_error (h : t.Keeps capacity) {lookup : Lookup} {failure : Failure}
    (hask : t.state.ask (.values lookup) = .error failure) :
    (t.after (.values lookup)).Keeps capacity := by
  have hanswered := answered_after_of_error hask
  have hkeys : (t.after (.values lookup)).state.cache.keys = t.state.cache.keys :=
    LookupCache.keys_serve_of_error hask
  refine ⟨LookupCache.capacity_serve.trans h.capacity_eq, ?_, ?_⟩
  · rw [hkeys, h.keys_eq, recent, recent, hanswered]
  · rw [hanswered]
    exact h.still

/-- What one step preserves. -/
theorem Keeps.after (h : t.Keeps capacity) (step : Step) : (t.after step).Keeps capacity := by
  cases step with
  | values lookup =>
    cases hask : t.state.ask (.values lookup) with
    | ok found => exact h.after_of_ok hask
    | error failure => exact h.after_of_error hask
  | topics term language => exact ⟨h.capacity_eq, h.keys_eq, h.still⟩
  | insert triple =>
    exact ⟨h.capacity_eq, h.keys_eq,
      fun lookup hmem => TripleSet.answers_insert triple (h.still lookup hmem)⟩
  | clear => exact ⟨h.capacity_eq, List.take_nil.symm, fun _ h => absurd h List.not_mem_nil⟩

theorem keeps_ofSteps (triples : TripleSet) (capacity : Nat) (steps : List Step) :
    (ofSteps triples capacity steps).Keeps capacity := by
  induction steps using List.reverseRecOn with
  | nil => exact keeps_start triples capacity
  | append_singleton steps step ih =>
    rw [ofSteps_concat]
    exact ih.after step

/-! ### Two capacities -/

/-- **Whether a larger cache has come through the same steps with no more work**: the sets are the
same, so are the look-ups that succeeded, and no more look-ups were passed on. -/
structure Spares (t' t : Trail) : Prop where
  triples_eq : t'.state.triples = t.state.triples
  answered_eq : t'.answered = t.answered
  passedOn_le : t'.state.cache.passedOn ≤ t.state.cache.passedOn

/-- What is remembered with a capacity is remembered with a larger one. -/
theorem Keeps.keys_subset (h : t.Keeps capacity) (h' : t'.Keeps larger) (hle : capacity ≤ larger)
    (hanswered : t'.answered = t.answered) : t.state.cache.keys ⊆ t'.state.cache.keys := by
  rw [h.keys_eq, h'.keys_eq, recent, recent, hanswered]
  exact List.take_subset_take_left _ hle

theorem passedOn_after_values (lookup : Lookup) :
    (t.after (.values lookup)).state.cache.passedOn =
      t.state.cache.passedOn + if lookup ∈ t.state.cache.keys then 0 else 1 :=
  LookupCache.passedOn_serve

/-- A look-up succeeds through both or through neither. -/
theorem Spares.answered_after (hs : t'.Spares t) (h : t.Keeps capacity) (h' : t'.Keeps larger)
    (lookup : Lookup) :
    (t'.after (.values lookup)).answered = (t.after (.values lookup)).answered := by
  have hsame : (∃ found, t'.state.ask (.values lookup) = .ok found) ↔
      ∃ found, t.state.ask (.values lookup) = .ok found := by
    rw [h.ask_ok_iff, h'.ask_ok_iff, hs.triples_eq]
  cases hask : t.state.ask (.values lookup) with
  | ok found =>
    obtain ⟨found', hask'⟩ := hsame.mpr ⟨found, hask⟩
    rw [answered_after_of_ok hask, answered_after_of_ok hask', hs.answered_eq]
  | error failure =>
    cases hask' : t'.state.ask (.values lookup) with
    | ok found' =>
      obtain ⟨found, hfound⟩ := hsame.mp ⟨found', hask'⟩
      cases hask.symm.trans hfound
    | error failure' =>
      rw [answered_after_of_error hask, answered_after_of_error hask', hs.answered_eq]

theorem Spares.after (hs : t'.Spares t) (h : t.Keeps capacity) (h' : t'.Keeps larger)
    (hle : capacity ≤ larger) (step : Step) : (t'.after step).Spares (t.after step) := by
  cases step with
  | values lookup =>
    refine ⟨hs.triples_eq, hs.answered_after h h' lookup, ?_⟩
    have hpassed := hs.passedOn_le
    have hsubset := h.keys_subset h' hle hs.answered_eq
    rw [passedOn_after_values, passedOn_after_values]
    by_cases hmem : lookup ∈ t.state.cache.keys
    · rw [if_pos hmem, if_pos (hsubset hmem)]
      exact hpassed
    · rw [if_neg hmem]
      split <;> omega
  | topics term language => exact hs
  | insert triple =>
    exact ⟨congrArg (fun triples : TripleSet => triples.insert triple) hs.triples_eq,
      hs.answered_eq, hs.passedOn_le⟩
  | clear => exact ⟨hs.triples_eq, rfl, hs.passedOn_le⟩

theorem spares_ofSteps (triples : TripleSet) (hle : capacity ≤ larger) (steps : List Step) :
    (ofSteps triples larger steps).Spares (ofSteps triples capacity steps) := by
  induction steps using List.reverseRecOn with
  | nil => exact ⟨rfl, rfl, Nat.le_refl _⟩
  | append_singleton steps step ih =>
    rw [ofSteps_concat, ofSteps_concat]
    exact ih.after (keeps_ofSteps triples capacity steps) (keeps_ofSteps triples larger steps) hle
      step

end Trail

/-- **A cache remembers the most recent look-ups that succeeded.**  After any steps, it remembers
just as many of them as it has room for, and passes on just the look-ups that it does not remember.
A larger cache has found the same look-ups to succeed, remembers all that a smaller one does, and
has passed no more look-ups on. -/
theorem remembers_most_recent (triples : TripleSet) {capacity larger : Nat}
    (hle : capacity ≤ larger) (steps : List Step) :
    let t := Trail.ofSteps triples capacity steps
    let t' := Trail.ofSteps triples larger steps
    t.state = (start triples capacity).afterAll (steps.map Step.event) ∧
    t.recent.Nodup ∧ t.state.cache.keys = t.recent.take capacity ∧
    t.state.cache.size = min capacity t.recent.length ∧
    (∀ lookup ∈ t.state.cache.keys,
      (∃ found, ∀ index, (t.state.cache.serve index lookup).1 = .ok found) ∧
      (t.after (.values lookup)).state.cache.passedOn = t.state.cache.passedOn) ∧
    (∀ lookup, lookup ∉ t.state.cache.keys →
      (∀ index, (t.state.cache.serve index lookup).1 = index.property lookup) ∧
      (t.after (.values lookup)).state.cache.passedOn = t.state.cache.passedOn + 1) ∧
    t'.answered = t.answered ∧ t.state.cache.keys ⊆ t'.state.cache.keys ∧
    t'.state.cache.passedOn ≤ t.state.cache.passedOn := by
  intro t t'
  have hkeeps : t.Keeps capacity := Trail.keeps_ofSteps triples capacity steps
  have hkeeps' : t'.Keeps larger := Trail.keeps_ofSteps triples larger steps
  have hspares : t'.Spares t := Trail.spares_ofSteps triples hle steps
  refine ⟨Trail.state_ofSteps triples capacity steps, nodup_eraseDups _, hkeeps.keys_eq, ?_,
    fun lookup hmem => ⟨?_, ?_⟩, fun lookup hmem => ⟨fun index => ?_, ?_⟩, hspares.answered_eq,
    hkeeps.keys_subset hkeeps' hle hspares.answered_eq, hspares.passedOn_le⟩
  · rw [← LookupCache.length_keys, hkeeps.keys_eq, List.length_take]
  · obtain ⟨found, hserve⟩ := LookupCache.serve_of_mem hmem
    exact ⟨found, fun index => by rw [hserve]⟩
  · rw [Trail.passedOn_after_values, if_pos hmem]
    rfl
  · rw [LookupCache.serve_of_notMem hmem]
  · rw [Trail.passedOn_after_values, if_neg hmem]

/-- Two look-ups in turn, with room for one of them and with room for both. -/
theorem remembers_most_recent_one_two :
    let triples : TripleSet := .ofList [⟨"m.1", "label", "One @en"⟩, ⟨"m.2", "label", "Two @en"⟩]
    let one : Lookup := ⟨"label", "m.1", .subject⟩
    let two : Lookup := ⟨"label", "m.2", .subject⟩
    let steps : List Step := [.values one, .values two, .values one]
    1 ≤ 2 ∧ (Trail.ofSteps triples 1 steps).state.cache.keys = [one] ∧
      (Trail.ofSteps triples 1 steps).state.cache.passedOn = 3 ∧
      (Trail.ofSteps triples 2 steps).state.cache.passedOn = 2 ∧
      one ∈ (Trail.ofSteps triples 2 steps).state.cache.keys := by
  intro triples one two steps
  obtain ⟨_, _, hkeys, _, _, _, _, hsubset, _⟩ :=
    remembers_most_recent triples (show 1 ≤ 2 by decide) steps
  have hone : (Trail.ofSteps triples 1 steps).state.cache.keys = [one] := hkeys.trans rfl
  exact ⟨by decide, hone, rfl, rfl, hsubset (by rw [hone]; exact List.mem_singleton_self _)⟩

end CachedSet

end GraphAnswers
