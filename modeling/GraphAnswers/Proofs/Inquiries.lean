import GraphAnswers.Proofs.Cache
import Mathlib.Data.List.Forall2
/-!
# What inquiries in steps may come to

An inquiry is put together from smaller ones: one after another, over a list, or with the failures of
a part as values.  What the whole may come to (`Inquiry.Comes`) is told by what the parts may come to,
so that whatever holds of every outcome of the parts can be carried to the whole.
-/
namespace GraphAnswers.Inquiry

variable {α β γ : Type} {index : Index}
  {allowed : Lookup → Except Failure (SortedSet String) → Prop}

/-! ### One after another -/

theorem continueWith_continueWith (x : Inquiry α) (f : Except Failure α → Inquiry β)
    (g : Except Failure β → Inquiry γ) :
    (x.continueWith f).continueWith g = x.continueWith fun outcome => (f outcome).continueWith g := by
  induction x with
  | done outcome => rfl
  | property lookup next ih => exact congrArg _ (funext fun outcome => ih outcome)
  | topics term language next ih => exact congrArg _ (funext fun outcome => ih outcome)

theorem continueWith_done (x : Inquiry α) : x.continueWith done = x := by
  induction x with
  | done outcome => rfl
  | property lookup next ih => exact congrArg _ (funext fun outcome => ih outcome)
  | topics term language next ih => exact congrArg _ (funext fun outcome => ih outcome)

theorem id_map (x : Inquiry α) : id <$> x = x := by
  show x.continueWith _ = x
  refine Eq.trans (congrArg x.continueWith (funext fun outcome => ?_)) x.continueWith_done
  cases outcome <;> rfl

theorem bind_assoc (x : Inquiry α) (f : α → Inquiry β) (g : β → Inquiry γ) :
    x >>= f >>= g = x >>= fun a => f a >>= g := by
  show (x.continueWith _).continueWith _ = x.continueWith _
  rw [continueWith_continueWith]
  refine congrArg x.continueWith (funext fun outcome => ?_)
  cases outcome <;> rfl

instance : LawfulMonad Inquiry := LawfulMonad.mk' Inquiry id_map (fun _ _ => rfl) bind_assoc

theorem comes_continueWith_iff {x : Inquiry α} {f : Except Failure α → Inquiry β}
    {outcome : Except Failure β} : (x.continueWith f).Comes index allowed outcome ↔
      ∃ first, x.Comes index allowed first ∧ (f first).Comes index allowed outcome := by
  constructor
  · intro h
    induction x with
    | done first => exact ⟨first, .done, h⟩
    | property lookup next ih =>
      cases h with
      | property asked rest =>
        obtain ⟨first, hfirst, hrest⟩ := ih _ rest
        exact ⟨first, .property asked hfirst, hrest⟩
    | topics term language next ih =>
      cases h with
      | topics rest =>
        obtain ⟨first, hfirst, hrest⟩ := ih _ rest
        exact ⟨first, .topics hfirst, hrest⟩
  · rintro ⟨first, hfirst, hrest⟩
    induction hfirst with
    | done => exact hrest
    | property asked _ ih => exact .property asked (ih hrest)
    | topics _ ih => exact .topics (ih hrest)

theorem comes_done_iff {first outcome : Except Failure α} :
    (done first).Comes index allowed outcome ↔ outcome = first := by
  constructor
  · intro h
    cases h
    rfl
  · rintro rfl
    exact .done

/-- **An inquiry in two steps succeeds through both.** -/
theorem comes_bind_ok_iff {x : Inquiry α} {f : α → Inquiry β} {b : β} :
    (x >>= f).Comes index allowed (.ok b) ↔
      ∃ a, x.Comes index allowed (.ok a) ∧ (f a).Comes index allowed (.ok b) := by
  show (x.continueWith _).Comes index allowed _ ↔ _
  rw [comes_continueWith_iff]
  constructor
  · rintro ⟨first, hfirst, hrest⟩
    cases first with
    | ok a => exact ⟨a, hfirst, hrest⟩
    | error failure => cases hrest
  · rintro ⟨a, ha, hrest⟩
    exact ⟨.ok a, ha, hrest⟩

theorem comes_pure_iff {a b : α} : (pure a : Inquiry α).Comes index allowed (.ok b) ↔ b = a :=
  comes_done_iff.trans ⟨Except.ok.inj, congrArg _⟩

theorem comes_ofExcept_iff {first outcome : Except Failure α} :
    (ofExcept first).Comes index allowed outcome ↔ outcome = first := comes_done_iff

theorem not_comes_fail {failure : Failure} {a : α} :
    ¬(fail failure : Inquiry α).Comes index allowed (.ok a) :=
  fun h => by cases h

theorem comes_values_iff {lookup : Lookup} {outcome : Except Failure (SortedSet String)} :
    (values lookup).Comes index allowed outcome ↔ allowed lookup outcome := by
  constructor
  · intro h
    cases h with
    | property asked rest =>
      rw [comes_done_iff] at rest
      rwa [rest]
  · exact fun h => .property h .done

theorem comes_candidates_iff {term : String} {language : Language}
    {outcome : Except Failure (SortedSet Element)} :
    (candidates term language).Comes index allowed outcome ↔
      outcome = index.topics term language := by
  constructor
  · intro h
    cases h with
    | topics rest => exact comes_done_iff.mp rest
  · rintro rfl
    exact .topics .done

/-! ### Failures as values -/

theorem comes_ifFound_some {x : Inquiry α} {a : α}
    (h : x.ifFound.Comes index allowed (.ok (some a))) : x.Comes index allowed (.ok a) := by
  obtain ⟨first, hfirst, hrest⟩ := comes_continueWith_iff.mp h
  cases first with
  | ok b =>
    cases hrest
    exact hfirst
  | error failure => cases failure <;> cases hrest

theorem comes_attempt {x : Inquiry α} {outcome : Except Failure α}
    (h : x.attempt.Comes index allowed (.ok outcome)) : x.Comes index allowed outcome := by
  obtain ⟨first, hfirst, hrest⟩ := comes_continueWith_iff.mp h
  cases hrest
  exact hfirst

/-! ### Over a list -/

/-- What is on the right has something on the left. -/
theorem exists_of_mem_forall₂ {R : α → β → Prop} {l : List α} {bs : List β} {b : β}
    (h : List.Forall₂ R l bs) (hb : b ∈ bs) : ∃ a ∈ l, R a b := by
  induction h with
  | nil => cases hb
  | @cons a first l bs hfirst _ ih =>
    rcases List.mem_cons.mp hb with rfl | hb
    · exact ⟨a, List.mem_cons_self, hfirst⟩
    · obtain ⟨a', ha', hR⟩ := ih hb
      exact ⟨a', List.mem_cons_of_mem a ha', hR⟩

/-- What every step keeps, the whole walk keeps. -/
theorem comes_foldlM (kept : β → Prop) {f : β → α → Inquiry β} {l : List α} {b b' : β}
    (h : (l.foldlM f b).Comes index allowed (.ok b')) (hstart : kept b)
    (hstep : ∀ b a b', a ∈ l → kept b → (f b a).Comes index allowed (.ok b') → kept b') :
    kept b' := by
  induction l generalizing b with
  | nil =>
    obtain rfl := comes_pure_iff.mp h
    exact hstart
  | cons a l ih =>
    rw [List.foldlM_cons] at h
    obtain ⟨next, hnext, h⟩ := comes_bind_ok_iff.mp h
    exact ih h (hstep b a next List.mem_cons_self hstart hnext) fun b a b' ha =>
      hstep b a b' (List.mem_cons_of_mem _ ha)

/-- One result for each element, in order. -/
theorem comes_mapM {f : α → Inquiry β} {l : List α} {bs : List β}
    (h : (l.mapM f).Comes index allowed (.ok bs)) :
    List.Forall₂ (fun a b => (f a).Comes index allowed (.ok b)) l bs := by
  induction l generalizing bs with
  | nil =>
    rw [List.mapM_nil] at h
    obtain rfl := comes_pure_iff.mp h
    exact .nil
  | cons a l ih =>
    rw [List.mapM_cons] at h
    obtain ⟨b, hb, h⟩ := comes_bind_ok_iff.mp h
    obtain ⟨others, hothers, h⟩ := comes_bind_ok_iff.mp h
    obtain rfl := comes_pure_iff.mp h
    exact .cons hb (ih hothers)

/-! ### Through a cache -/

/-- Two steps are carried out one after the other, the second through the cache that the first one
leaves. -/
theorem runCached_bind (index : Index) (x : Inquiry α) (f : α → Inquiry β) (cache : LookupCache) :
    (x >>= f).runCached index cache =
      match x.runCached index cache with
      | (.ok a, after) => (f a).runCached index after
      | (.error failure, after) => (.error failure, after) := by
  show (x.continueWith _).runCached index cache = _
  induction x generalizing cache with
  | done outcome => cases outcome <;> rfl
  | property lookup next ih => exact ih _ _
  | topics term language next ih => exact ih _ _

end GraphAnswers.Inquiry
