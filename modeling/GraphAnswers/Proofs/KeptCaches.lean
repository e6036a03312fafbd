import GraphAnswers.Proofs.Inquiries
import GraphAnswers.Proofs.Outcomes
import GraphAnswers.Proofs.SortedMap
import GraphAnswers.Server
/-!
# What the caches of a registry remember

A registry may be asked at any time and find the files in any state, but it remembers only what some
look-up has given.  So what is known of all that the files may give is known of all that is remembered
(`Registry.RemembersOnly.carryOut`), and of each look-up of an inquiry that succeeds
(`Registry.RemembersOnly.carryOut_bind_ok`).
-/
namespace GraphAnswers

/-- Whether something is known of whatever may be looked up in an index file, whoever holds it. -/
def FileTree.GivesOnly (files : FileTree) (known : Lookup → SortedSet String → Prop) : Prop :=
  ∀ patience h lookup found, (files.index patience h).property lookup = .ok found →
    known lookup found

namespace Registry

variable {known : Lookup → SortedSet String → Prop} {r : Registry} {files : FileTree}
  {name path : String} {x : OpenIndex} {α β : Type}

/-- Whether something is known of all that is remembered of any index. -/
def RemembersOnly (r : Registry) (known : Lookup → SortedSet String → Prop) : Prop :=
  ∀ name x, r.opened.find? name = some x → x.cache.RemembersOnly known

/-! ### Asking for an index -/

/-- Whether what comes of asking for an index remembers only what is known. -/
structure GetsOnly (known : Lookup → SortedSet String → Prop)
    (outcome : Except Failure OpenIndex × Registry) : Prop where
  registry : outcome.2.RemembersOnly known
  given : ∀ x, outcome.1 = .ok x → x.cache.RemembersOnly known

theorem remembersOnly_of_opened (h : r.opened = .empty) : r.RemembersOnly known := by
  intro name x hx
  rw [h] at hx
  cases hx

theorem RemembersOnly.keep (h : r.RemembersOnly known) {x : OpenIndex}
    (hx : x.cache.RemembersOnly known) : (r.keep name x).RemembersOnly known := by
  intro other y hy
  unfold Registry.keep at hy
  rw [SortedMap.find?_insert] at hy
  split at hy
  · cases hy
    exact hx
  · exact h other y hy

theorem RemembersOnly.close (h : r.RemembersOnly known) : (r.close name).RemembersOnly known := by
  intro other y hy
  unfold Registry.close at hy
  rw [SortedMap.find?_erase] at hy
  split at hy
  · cases hy
  · exact h other y hy

theorem RemembersOnly.error (h : r.RemembersOnly known) (failure : Failure) :
    GetsOnly known (.error failure, r) :=
  ⟨h, fun y hy => by cases hy⟩

/-- An index is revisited with its cache as it was, or with an empty one. -/
theorem RemembersOnly.revisit (h : r.RemembersOnly known) (hx : x.cache.RemembersOnly known) :
    GetsOnly known (r.revisit files name path x) := by
  unfold Registry.revisit
  split
  · exact h.error _
  split
  · exact RemembersOnly.error (h.keep (x := { x with held := some _ }) hx) _
  dsimp only
  split
  · exact ⟨h.keep hx, fun y hy => by cases hy; exact hx⟩
  · have hclear : x.cache.clear.RemembersOnly known := LookupCache.remembersOnly_clear x.cache
    exact ⟨h.keep hclear, fun y hy => by cases hy; exact hclear⟩

theorem RemembersOnly.openNew (h : r.RemembersOnly known) :
    GetsOnly known (r.openNew files name path) := by
  have hgiven (y : OpenIndex) (hy : (r.openNew files name path).1 = .ok y) :
      y.cache.RemembersOnly known := by
    unfold Registry.openNew at hy
    dsimp only at hy
    obtain ⟨held, _, hy⟩ := bind_ok_iff.mp hy
    split at hy
    · cases hy
    · rename_i cache hcache
      obtain ⟨state, _, hy⟩ := bind_ok_iff.mp hy
      cases hy
      cases Option.ite_none_right_eq_some.mp hcache |>.2
      exact LookupCache.remembersOnly_ofCapacity r.capacity
  refine ⟨?_, hgiven⟩
  unfold Registry.openNew
  dsimp only
  split
  · rename_i y hy
    exact h.keep (hgiven y hy)
  · exact h

theorem RemembersOnly.get (h : r.RemembersOnly known) (files : FileTree) (name : String) :
    GetsOnly known (r.get files name) := by
  unfold Registry.get
  split
  · exact h.error _
  split
  · split
    · rename_i x hx
      exact h.revisit (h name x hx)
    · exact h.openNew
  · exact h.close.error _

/-! ### Inquiries -/

theorem RemembersOnly.consult (h : r.RemembersOnly known) (hfiles : files.GivesOnly known)
    (hx : x.cache.RemembersOnly known) (inquiry : Inquiry α) :
    (r.consult files name path x inquiry).2.RemembersOnly known := by
  unfold Registry.consult
  split
  · exact h
  · exact h
  · exact h.keep (Inquiry.remembersOnly_runCached _ hx (hfiles r.patience _))

/-- **What is known of all that the files may give, is known of all that is remembered.** -/
theorem RemembersOnly.carryOut (h : r.RemembersOnly known) (hfiles : files.GivesOnly known)
    (inquiry : Inquiry α) : (r.carryOut files name inquiry).2.RemembersOnly known := by
  have hget := h.get files name
  unfold Registry.carryOut
  split
  · rename_i hasked
    rw [hasked] at hget
    exact hget.registry
  · rename_i x r' hasked
    rw [hasked] at hget
    exact hget.registry.consult hfiles (hget.given x rfl) inquiry

/-- With a file to look things up in, an inquiry is carried out through the cache. -/
theorem consult_of_file {held : FileTree.Handle} (hfile : fileOf files x path = .ok held)
    (inquiry : Inquiry α) : (r.consult files name path x inquiry).1 =
      (inquiry.runCached (files.index r.patience held) x.cache).1 := by
  unfold Registry.consult
  rw [hfile]
  cases inquiry <;> rfl

/-- Without one, only an inquiry without look-ups succeeds. -/
theorem consult_of_noFile {failure : Failure} {a : α}
    (hfile : fileOf files x path = .error failure) {inquiry : Inquiry α}
    (h : (r.consult files name path x inquiry).1 = .ok a) : inquiry = .done (.ok a) := by
  unfold Registry.consult at h
  rw [hfile] at h
  cases inquiry with
  | done outcome =>
    cases h
    rfl
  | property lookup next => cases h
  | topics term language next => cases h

/-- **An inquiry in two steps that succeeds** does so through the first step, which succeeds by
itself, and each look-up of either gives what is known of it. -/
theorem consult_bind_ok (hfiles : files.GivesOnly known) (hx : x.cache.RemembersOnly known)
    {inquiry : Inquiry α} {next : α → Inquiry β} {b : β}
    (h : (r.consult files name path x (inquiry >>= next)).1 = .ok b) :
    ∃ a held, (r.consult files name path x inquiry).1 = .ok a ∧
      inquiry.Comes (files.index r.patience held)
        ((files.index r.patience held).Admits known) (.ok a) ∧
      (next a).Comes (files.index r.patience held)
        ((files.index r.patience held).Admits known) (.ok b) := by
  cases hfile : fileOf files x path with
  | error failure =>
    have hdone := consult_of_noFile hfile h
    cases inquiry with
    | done outcome =>
      cases outcome with
      | ok a =>
        refine ⟨a, ⟨[], 0⟩, ?_, .done, ?_⟩
        · unfold Registry.consult
          rw [hfile]
        · have hnext : next a = .done (.ok b) := hdone
          rw [hnext]
          exact .done
      | error failure => cases hdone
    | property lookup rest => cases hdone
    | topics term language rest => cases hdone
  | ok held =>
    have hnow := hfiles r.patience held
    rw [consult_of_file hfile, Inquiry.runCached_bind] at h
    rw [consult_of_file hfile]
    have hcomes := inquiry.comes_runCached hx hnow
    have hafter := inquiry.remembersOnly_runCached hx hnow
    rcases hrun : inquiry.runCached (files.index r.patience held) x.cache with ⟨outcome, after⟩
    rw [hrun] at h hcomes hafter
    cases outcome with
    | error failure => cases h
    | ok a =>
      have hnext := (next a).comes_runCached hafter hnow
      dsimp only at h
      rw [h] at hnext
      exact ⟨a, held, rfl, hcomes, hnext⟩

/-- The same for an index that has to be asked for. -/
theorem RemembersOnly.carryOut_bind_ok (h : r.RemembersOnly known) (hfiles : files.GivesOnly known)
    {inquiry : Inquiry α} {next : α → Inquiry β} {b : β}
    (hb : (r.carryOut files name (inquiry >>= next)).1 = .ok b) :
    ∃ a patience held, (r.carryOut files name inquiry).1 = .ok a ∧
      inquiry.Comes (files.index patience held)
        ((files.index patience held).Admits known) (.ok a) ∧
      (next a).Comes (files.index patience held)
        ((files.index patience held).Admits known) (.ok b) := by
  have hget := h.get files name
  unfold Registry.carryOut at hb ⊢
  rcases hasked : r.get files name with ⟨outcome, r'⟩
  rw [hasked] at hget hb
  cases outcome with
  | error failure => cases hb
  | ok x =>
    obtain ⟨a, held, ha, hcomes, hnext⟩ := consult_bind_ok hfiles (hget.given x rfl) hb
    exact ⟨a, r'.patience, held, ha, hcomes, hnext⟩

end Registry

end GraphAnswers
