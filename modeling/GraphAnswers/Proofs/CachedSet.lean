import GraphAnswers.Engine
import GraphAnswers.Index.Memory
import GraphAnswers.Proofs.Cache
import Mathlib.Data.List.Induction
/-!
# A set of triples that changes under its cache

Triples are inserted while inquiries are carried out through a cache, which is told nothing of the
insertions and is cleared now and then.  What a look-up gives may be out of date, but no older than
the last clear, and never made up (`CachedSet.cache_tells_no_older`): the invariant is that each
remembered look-up is what the set gave at some moment since (`CachedSet.GivenSince`).
-/
namespace GraphAnswers

namespace LookupCache

/-- Whether a cache has a capacity and keeps within it. -/
structure Within (c : LookupCache) (capacity : Nat) : Prop where
  capacity_eq : c.capacity = capacity
  size_le : c.recent.length ≤ capacity

variable {c : LookupCache} {capacity : Nat} {lookup : Lookup}

theorem within_ofCapacity (capacity : Nat) : (ofCapacity capacity).Within capacity :=
  ⟨rfl, Nat.zero_le _⟩

theorem Within.clear (h : c.Within capacity) : c.clear.Within capacity :=
  ⟨h.capacity_eq, Nat.zero_le _⟩

theorem Within.remember (h : c.Within capacity) (found : SortedSet String) :
    (c.remember lookup found).Within capacity := by
  refine ⟨h.capacity_eq, ?_⟩
  rw [← h.capacity_eq]
  exact List.length_take_le _ _

theorem Within.serve {index : Index} (h : c.Within capacity) (lookup : Lookup) :
    (c.serve index lookup).2.Within capacity := by
  unfold LookupCache.serve
  cases c.find? lookup with
  | some found => exact h.remember found
  | none =>
    have hpassed : ({ c with passedOn := c.passedOn + 1 } : LookupCache).Within capacity :=
      ⟨h.capacity_eq, h.size_le⟩
    cases index.property lookup with
    | ok found => exact hpassed.remember found
    | error failure => exact hpassed

/-- A cache without capacity remembers nothing, so it agrees with every index. -/
theorem Within.agrees (h : c.Within 0) (index : Index) : c.Agrees index := by
  intro e he
  rw [List.eq_nil_of_length_eq_zero (Nat.le_zero.mp h.size_le)] at he
  cases he

end LookupCache

/-- A set of triples, and the cache through which it is asked. -/
structure CachedSet where
  triples : TripleSet
  cache : LookupCache

namespace CachedSet

/-- What may happen to a set of triples and its cache. -/
inductive Event : Type 1 where
  /-- A look-up, a question or whatever else is asked. -/
  | inquire {α : Type} (inquiry : Inquiry α)
  /-- A triple is inserted, without notice to the cache. -/
  | insert (triple : Triple)
  | clear

/-- A set of triples with a cache that remembers nothing yet. -/
def start (triples : TripleSet) (capacity : Nat) : CachedSet := ⟨triples, .ofCapacity capacity⟩

/-- What an inquiry comes to through the cache. -/
def ask {α : Type} (s : CachedSet) (inquiry : Inquiry α) : Except Failure α :=
  (inquiry.runCached s.triples.index s.cache).1

/-- What an event leaves. -/
def after (s : CachedSet) : Event → CachedSet
  | .inquire inquiry => { s with cache := (inquiry.runCached s.triples.index s.cache).2 }
  | .insert triple => { s with triples := s.triples.insert triple }
  | .clear => { s with cache := s.cache.clear }

/-- What events leave, one after another. -/
def afterAll (s : CachedSet) (events : List Event) : CachedSet := events.foldl after s

/-- Whether the triples were those of some moment since the last clear or, if there was none, since
the beginning. -/
def HeldSince (first : CachedSet) (events : List Event) (triples : TripleSet) : Prop :=
  ∃ before later, events = before ++ later ∧ Event.clear ∉ later ∧
    (first.afterAll before).triples = triples

/-- **What a look-up may give**: what the set gave at some moment since the last clear. -/
def GivenSince (first : CachedSet) (events : List Event) (lookup : Lookup)
    (found : SortedSet String) : Prop :=
  ∃ triples, first.HeldSince events triples ∧ triples.index.property lookup = .ok found

/-- Whether no triple was inserted since the last clear. -/
def IsUnchanged (events : List Event) : Prop :=
  ∀ before triple later, events = before ++ .insert triple :: later → Event.clear ∈ later

variable {first : CachedSet} {events : List Event} {triples : TripleSet}

theorem afterAll_concat (first : CachedSet) (events : List Event) (event : Event) :
    first.afterAll (events ++ [event]) = (first.afterAll events).after event := by
  unfold afterAll
  rw [List.foldl_append]
  rfl

theorem heldSince_now (first : CachedSet) (events : List Event) :
    first.HeldSince events (first.afterAll events).triples :=
  ⟨events, [], (List.append_nil _).symm, List.not_mem_nil, rfl⟩

/-- Only a clear puts an end to what was held since the last one. -/
theorem HeldSince.concat (h : first.HeldSince events triples) {event : Event}
    (hevent : event ≠ .clear) : first.HeldSince (events ++ [event]) triples := by
  obtain ⟨before, later, rfl, hnone, htriples⟩ := h
  refine ⟨before, later ++ [event], List.append_assoc _ _ _, ?_, htriples⟩
  rw [List.mem_append, List.mem_singleton]
  rintro (hmem | heq)
  · exact hnone hmem
  · exact hevent heq.symm

theorem GivenSince.concat {lookup : Lookup} {found : SortedSet String}
    (h : first.GivenSince events lookup found) {event : Event} (hevent : event ≠ .clear) :
    first.GivenSince (events ++ [event]) lookup found := by
  obtain ⟨triples, hheld, hfound⟩ := h
  exact ⟨triples, hheld.concat hevent, hfound⟩

/-- What the set gives now counts as well. -/
theorem givenSince_now {lookup : Lookup} {found : SortedSet String}
    (h : (first.afterAll events).triples.index.property lookup = .ok found) :
    first.GivenSince events lookup found :=
  ⟨_, heldSince_now first events, h⟩

/-- Events without a clear or an insertion leave the triples as they were. -/
theorem triples_afterAll (s : CachedSet) {later : List Event}
    (hnone : ∀ triple, Event.insert triple ∉ later) : (s.afterAll later).triples = s.triples := by
  induction later generalizing s with
  | nil => rfl
  | cons event later ih =>
    have hrest : ((s.after event).afterAll later).triples = (s.after event).triples :=
      ih _ fun triple hmem => hnone triple (List.mem_cons_of_mem _ hmem)
    show ((s.after event).afterAll later).triples = s.triples
    rw [hrest]
    cases event with
    | inquire inquiry => rfl
    | insert triple => exact absurd List.mem_cons_self (hnone triple)
    | clear => rfl

/-- Where nothing was inserted since the last clear, the set has been the same since. -/
theorem HeldSince.eq_of_isUnchanged (h : first.HeldSince events triples)
    (hsame : IsUnchanged events) : triples = (first.afterAll events).triples := by
  obtain ⟨before, later, rfl, hclear, rfl⟩ := h
  -- after an insertion there would have been a clear
  have hnone : ∀ triple, Event.insert triple ∉ later := by
    intro triple hmem
    obtain ⟨front, back, rfl⟩ := List.append_of_mem hmem
    have hback := hsame (before ++ front) triple back (by rw [List.append_assoc])
    exact hclear (List.mem_append_right _ (List.mem_cons_of_mem _ hback))
  unfold afterAll
  rw [List.foldl_append]
  exact (triples_afterAll _ hnone).symm

/-- **The invariant**: whatever is remembered was given since the last clear. -/
theorem remembersOnly_givenSince (triples : TripleSet) (capacity : Nat) (events : List Event) :
    ((start triples capacity).afterAll events).cache.RemembersOnly
      ((start triples capacity).GivenSince events) := by
  induction events using List.reverseRecOn with
  | nil => exact LookupCache.remembersOnly_ofCapacity capacity
  | append_singleton events event ih =>
    rw [afterAll_concat]
    -- what was given since the last clear still was, unless the event is the next one
    have hkept : event ≠ .clear → ((start triples capacity).afterAll events).cache.RemembersOnly
        ((start triples capacity).GivenSince (events ++ [event])) :=
      fun hevent e he => (ih e he).concat hevent
    cases event with
    | inquire inquiry =>
      have hevent : Event.inquire inquiry ≠ .clear := fun h => by cases h
      exact inquiry.remembersOnly_runCached (hkept hevent) fun lookup found hfound =>
        (givenSince_now hfound).concat hevent
    | insert triple => exact hkept fun h => by cases h
    | clear => exact LookupCache.remembersOnly_clear _

theorem within_afterAll (triples : TripleSet) (capacity : Nat) (events : List Event) :
    ((start triples capacity).afterAll events).cache.Within capacity := by
  induction events using List.reverseRecOn with
  | nil => exact LookupCache.within_ofCapacity capacity
  | append_singleton events event ih =>
    rw [afterAll_concat]
    cases event with
    | inquire inquiry =>
      exact inquiry.runCached_preserves (fun c lookup (hc : c.Within capacity) => hc.serve lookup) ih
    | insert triple => exact ih
    | clear => exact ih.clear

/-- Where nothing was inserted since the last clear, or nothing is ever remembered, the cache agrees
with the set. -/
theorem agrees_afterAll (triples : TripleSet) {capacity : Nat} {events : List Event}
    (h : IsUnchanged events ∨ capacity = 0) :
    ((start triples capacity).afterAll events).cache.Agrees
      ((start triples capacity).afterAll events).triples.index := by
  rcases h with hsame | rfl
  · intro e he
    obtain ⟨held, hheld, hfound⟩ := remembersOnly_givenSince triples capacity events e he
    rwa [hheld.eq_of_isUnchanged hsame] at hfound
  · exact (within_afterAll triples 0 events).agrees _

/-- **A cache makes nothing up, and tells nothing older than its last clear.**  After any events, a
look-up that succeeds gives what the set gave at some moment since the last clear, one that fails
fails as it does now, and topics are those of now; this goes for the look-ups of an inquiry as well.
Where nothing was inserted since the last clear, or there is no capacity, every question comes to
what it comes to without a cache. -/
theorem cache_tells_no_older (triples : TripleSet) (capacity : Nat) (events : List Event) :
    let s := (start triples capacity).afterAll events
    let given := (start triples capacity).GivenSince events
    (∀ lookup found, s.ask (.values lookup) = .ok found → given lookup found) ∧
    (∀ lookup failure, s.ask (.values lookup) = .error failure →
      s.triples.index.property lookup = .error failure) ∧
    (∀ term language,
      s.ask (.candidates term language) = s.triples.index.topics term language) ∧
    (∀ {α : Type} (inquiry : Inquiry α),
      inquiry.Comes s.triples.index (s.triples.index.Admits given) (s.ask inquiry)) ∧
    (IsUnchanged events ∨ capacity = 0 →
      ∀ (engine : Engine) (language : Language) (question : String),
        s.ask (engine.queryIn language question) =
          (engine.queryIn language question).run s.triples.index ∧
        s.ask (engine.answerIn language question) =
          (engine.answerIn language question).run s.triples.index) := by
  intro s given
  have hadmits (lookup : Lookup) :
      s.triples.index.Admits given lookup (s.ask (.values lookup)) :=
    ((remembersOnly_givenSince triples capacity events).serve
      (fun _ _ hfound => givenSince_now hfound) lookup).1
  refine ⟨fun lookup found hfound => ?_, fun lookup failure hfailed => ?_, fun _ _ => rfl,
    fun inquiry => inquiry.comes_runCached (remembersOnly_givenSince triples capacity events)
      fun _ _ hfound => givenSince_now hfound,
    fun h engine language question => ?_⟩
  · have := hadmits lookup
    rwa [hfound] at this
  · have := hadmits lookup
    rwa [hfailed] at this
  · have hagrees := agrees_afterAll triples h
    exact ⟨(Inquiry.runCached_eq _ hagrees).1, (Inquiry.runCached_eq _ hagrees).1⟩

end CachedSet

end GraphAnswers
