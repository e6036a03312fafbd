import GraphAnswers.Index.Cache
/-!
# What comes of looking up through a cache

Whatever is known of all that a cache remembers is known of each look-up that succeeds through it,
and a look-up that fails fails as the index does (`Inquiry.comes_runCached`).  In particular, as
long as each remembered look-up is what the index would give now, an inquiry comes to the same
through the cache as without it (`Inquiry.runCached_eq`), and the cache goes on agreeing.
-/
namespace GraphAnswers

/-- Whether a look-up may have an outcome: what is known of it, if it succeeds, and what the index
gives, if it fails. -/
def Index.Admits (index : Index) (known : Lookup → SortedSet String → Prop) (lookup : Lookup) :
    Except Failure (SortedSet String) → Prop
  | .ok found => known lookup found
  | .error failure => index.property lookup = .error failure

/-- **What an inquiry may come to** when look-ups of values have outcomes that are allowed, and
those of topics have the outcomes that the index gives. -/
inductive Inquiry.Comes {α : Type} (index : Index)
    (allowed : Lookup → Except Failure (SortedSet String) → Prop) :
    Inquiry α → Except Failure α → Prop
  | done {outcome : Except Failure α} : Comes index allowed (.done outcome) outcome
  | property {lookup : Lookup} {found : Except Failure (SortedSet String)}
      {next : Except Failure (SortedSet String) → Inquiry α} {outcome : Except Failure α}
      (asked : allowed lookup found) (rest : Comes index allowed (next found) outcome) :
      Comes index allowed (.property lookup next) outcome
  | topics {term : String} {language : Language}
      {next : Except Failure (SortedSet Element) → Inquiry α} {outcome : Except Failure α}
      (rest : Comes index allowed (next (index.topics term language)) outcome) :
      Comes index allowed (.topics term language next) outcome

/-- An inquiry whose look-ups have the outcomes that the index gives comes to what it comes to. -/
theorem Inquiry.Comes.eq_run {α : Type} {index : Index}
    {allowed : Lookup → Except Failure (SortedSet String) → Prop}
    (hexact : ∀ lookup outcome, allowed lookup outcome → outcome = index.property lookup)
    {x : Inquiry α} {outcome : Except Failure α} (h : x.Comes index allowed outcome) :
    outcome = x.run index := by
  induction h with
  | done => rfl
  | property asked _ ih =>
    rw [ih, hexact _ _ asked]
    rfl
  | topics _ ih => exact ih

namespace LookupCache

variable {c : LookupCache} {index : Index} {lookup : Lookup} {found : SortedSet String}
  {known : Lookup → SortedSet String → Prop}

/-- Whether something is known of all that is remembered. -/
def RemembersOnly (c : LookupCache) (known : Lookup → SortedSet String → Prop) : Prop :=
  ∀ e ∈ c.recent, known e.1 e.2

theorem remembersOnly_ofCapacity (capacity : Nat) : (ofCapacity capacity).RemembersOnly known := by
  intro e he
  cases he

theorem remembersOnly_clear (c : LookupCache) : c.clear.RemembersOnly known := by
  intro e he
  cases he

theorem RemembersOnly.find? (h : c.RemembersOnly known) (hfind : c.find? lookup = some found) :
    known lookup found := by
  obtain ⟨e, he, rfl⟩ := Option.map_eq_some_iff.mp hfind
  have hkey : e.1 = lookup := by simpa using List.find?_some he
  rw [← hkey]
  exact h e (List.mem_of_find?_eq_some he)

theorem RemembersOnly.remember (h : c.RemembersOnly known) (hfound : known lookup found) :
    (c.remember lookup found).RemembersOnly known := by
  intro e he
  rcases List.mem_cons.mp (List.mem_of_mem_take he) with rfl | he
  · exact hfound
  · exact h e (List.mem_filter.mp he).1

/-- One look-up: if what the index gives now is known, only what is known is given and remembered. -/
theorem RemembersOnly.serve (h : c.RemembersOnly known)
    (hnow : ∀ lookup found, index.property lookup = .ok found → known lookup found)
    (lookup : Lookup) : index.Admits known lookup (c.serve index lookup).1 ∧
      (c.serve index lookup).2.RemembersOnly known := by
  unfold LookupCache.serve
  cases hfind : c.find? lookup with
  | some found => exact ⟨h.find? hfind, h.remember (h.find? hfind)⟩
  | none =>
    have hpassed : ({ c with passedOn := c.passedOn + 1 } : LookupCache).RemembersOnly known := h
    cases hasked : index.property lookup with
    | ok found => exact ⟨hnow lookup found hasked, hpassed.remember (hnow lookup found hasked)⟩
    | error failure => exact ⟨hasked, hpassed⟩

/-- Whether everything that is remembered is what an index gives. -/
def Agrees (c : LookupCache) (index : Index) : Prop :=
  ∀ e ∈ c.recent, index.property e.1 = .ok e.2

theorem agrees_iff : c.Agrees index ↔
    c.RemembersOnly fun lookup found => index.property lookup = .ok found := Iff.rfl

theorem agrees_ofCapacity (capacity : Nat) (index : Index) :
    (ofCapacity capacity).Agrees index := agrees_iff.mpr (remembersOnly_ofCapacity capacity)

theorem agrees_clear (c : LookupCache) (index : Index) : c.clear.Agrees index :=
  agrees_iff.mpr (remembersOnly_clear c)

end LookupCache

namespace Inquiry

variable {α : Type} {index : Index} {c : LookupCache}

/-- What each look-up through a cache preserves, an inquiry preserves. -/
theorem runCached_preserves {kept : LookupCache → Prop}
    (hserve : ∀ c lookup, kept c → kept (c.serve index lookup).2) (x : Inquiry α) (h : kept c) :
    kept (x.runCached index c).2 := by
  induction x generalizing c with
  | done outcome => exact h
  | property lookup next ih => exact ih _ (hserve c lookup h)
  | topics term language next ih => exact ih _ h

/-- **Through a cache, each look-up that succeeds gives what is known of it**, and each one that
fails fails as the index does. -/
theorem comes_runCached {known : Lookup → SortedSet String → Prop} (x : Inquiry α)
    (h : c.RemembersOnly known)
    (hnow : ∀ lookup found, index.property lookup = .ok found → known lookup found) :
    x.Comes index (index.Admits known) (x.runCached index c).1 := by
  induction x generalizing c with
  | done outcome => exact .done
  | property lookup next ih =>
    obtain ⟨hadmits, hkept⟩ := h.serve hnow lookup
    exact .property hadmits (ih _ hkept)
  | topics term language next ih => exact .topics (ih _ h)

theorem remembersOnly_runCached {known : Lookup → SortedSet String → Prop} (x : Inquiry α)
    (h : c.RemembersOnly known)
    (hnow : ∀ lookup found, index.property lookup = .ok found → known lookup found) :
    (x.runCached index c).2.RemembersOnly known := by
  have hserve : ∀ (c : LookupCache) (lookup : Lookup), c.RemembersOnly known →
      (c.serve index lookup).2.RemembersOnly known :=
    fun c lookup hc => (hc.serve hnow lookup).2
  exact x.runCached_preserves hserve h

/-- **Through a cache that agrees with the index, an inquiry comes to what it comes to without.** -/
theorem runCached_eq (x : Inquiry α) (h : c.Agrees index) :
    (x.runCached index c).1 = x.run index ∧ (x.runCached index c).2.Agrees index := by
  rw [LookupCache.agrees_iff] at h ⊢
  refine ⟨(x.comes_runCached h fun _ _ hnow => hnow).eq_run fun lookup outcome hadmits => ?_,
    x.remembersOnly_runCached h fun _ _ hnow => hnow⟩
  cases outcome with
  | ok found => exact hadmits.symm
  | error failure => exact hadmits.symm

end Inquiry

end GraphAnswers
