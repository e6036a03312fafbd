import GraphAnswers.Failure
/-!
# Steps that may fail, one after another

What steps come to is told by the single steps: they succeed if each of them does, and else they
fail as the first of them that fails (`FirstFails`).
-/
namespace GraphAnswers

variable {α β : Type}

theorem bind_ok_iff {x : Except Failure α} {f : α → Except Failure β} {b : β} :
    x >>= f = .ok b ↔ ∃ a, x = .ok a ∧ f a = .ok b := by
  cases x with
  | error failure =>
    constructor
    · intro h
      cases h
    · rintro ⟨a, ha, _⟩
      cases ha
  | ok a =>
    constructor
    · exact fun h => ⟨a, rfl, h⟩
    · rintro ⟨a', ha', h⟩
      cases ha'
      exact h

theorem bind_error_iff {x : Except Failure α} {f : α → Except Failure β} {failure : Failure} :
    x >>= f = .error failure ↔ x = .error failure ∨ ∃ a, x = .ok a ∧ f a = .error failure := by
  cases x with
  | error other =>
    constructor
    · intro h
      cases h
      exact .inl rfl
    · rintro (h | ⟨a, ha, _⟩)
      · cases h
        rfl
      · cases ha
  | ok a =>
    constructor
    · exact fun h => .inr ⟨a, rfl, h⟩
    · rintro (h | ⟨a', ha', h⟩)
      · cases h
      · cases ha'
        exact h

theorem map_ok_iff {x : Except Failure α} {f : α → β} {b : β} :
    x.map f = .ok b ↔ ∃ a, x = .ok a ∧ f a = b := by
  cases x <;> simp [Except.map]

theorem map_bind_congr {γ : Type} {x : Except Failure α} {f f' : α → Except Failure β}
    {g : β → γ} (h : ∀ a, (f a).map g = (f' a).map g) : (x >>= f).map g = (x >>= f').map g := by
  cases x with
  | error failure => rfl
  | ok a => exact h a

theorem toOption_eq_some_iff {x : Except Failure α} {a : α} :
    x.toOption = some a ↔ x = .ok a := by
  cases x <;> simp [Except.toOption]

/-- Steps that all succeed give all their results. -/
theorem mapM_ok_iff {f : α → Except Failure β} {l : List α} {bs : List β} :
    l.mapM f = .ok bs ↔
      (∀ a ∈ l, ∃ b, f a = .ok b) ∧ bs = l.filterMap fun a => (f a).toOption := by
  induction l generalizing bs with
  | nil =>
    rw [List.mapM_nil]
    exact ⟨fun h => ⟨fun a ha => absurd ha List.not_mem_nil, (Except.ok.inj h).symm⟩,
      fun h => h.2 ▸ rfl⟩
  | cons a l ih =>
    rw [List.mapM_cons, bind_ok_iff, List.forall_mem_cons]
    constructor
    · rintro ⟨b, hb, h⟩
      obtain ⟨bs', hbs', h⟩ := bind_ok_iff.mp h
      cases h
      obtain ⟨hall, rfl⟩ := ih.mp hbs'
      refine ⟨⟨⟨b, hb⟩, hall⟩, ?_⟩
      rw [List.filterMap_cons, hb]
      rfl
    · rintro ⟨⟨⟨b, hb⟩, hall⟩, rfl⟩
      refine ⟨b, hb, bind_ok_iff.mpr ⟨_, ih.mpr ⟨hall, rfl⟩, ?_⟩⟩
      rw [List.filterMap_cons, hb]
      rfl

theorem mapM_eq_map {f : α → Except Failure β} {g : α → β} {l : List α}
    (h : ∀ a ∈ l, f a = .ok (g a)) : l.mapM f = .ok (l.map g) := by
  induction l with
  | nil => rfl
  | cons a l ih =>
    obtain ⟨ha, hl⟩ := List.forall_mem_cons.mp h
    rw [List.mapM_cons, ha, ih hl]
    rfl

theorem exists_ok_iff {x : Except Failure α} :
    (∃ a, x = .ok a) ↔ ∀ failure, x ≠ .error failure := by
  cases x with
  | ok a => exact iff_of_true ⟨a, rfl⟩ fun failure h => by cases h
  | error failure => exact iff_of_false (fun ⟨a, h⟩ => by cases h) fun h => h failure rfl

/-! ### The first step that fails -/

section FirstFails

variable {f : α → Except Failure β} {a : α} {l m : List α} {failure : Failure}

/-- Whether a failure is that of the first of some steps that fails. -/
def FirstFails (f : α → Except Failure β) (l : List α) (failure : Failure) : Prop :=
  ∃ before a after, l = before ++ a :: after ∧ (∀ b ∈ before, ∃ x, f b = .ok x) ∧
    f a = .error failure

theorem not_firstFails_nil : ¬FirstFails f [] failure := by
  rintro ⟨before, a, after, h, _⟩
  simp at h

theorem firstFails_cons_iff : FirstFails f (a :: l) failure ↔
    f a = .error failure ∨ (∃ x, f a = .ok x) ∧ FirstFails f l failure := by
  constructor
  · rintro ⟨before, b, after, hl, hbefore, hb⟩
    cases before with
    | nil =>
      cases hl
      exact .inl hb
    | cons c before =>
      cases hl
      rw [List.forall_mem_cons] at hbefore
      exact .inr ⟨hbefore.1, before, b, after, rfl, hbefore.2, hb⟩
  · rintro (h | ⟨hx, before, b, after, rfl, hbefore, hb⟩)
    · exact ⟨[], a, l, rfl, fun b hb => absurd hb List.not_mem_nil, h⟩
    · exact ⟨a :: before, b, after, rfl, List.forall_mem_cons.mpr ⟨hx, hbefore⟩, hb⟩

/-- Steps one after another fail as the first of them that fails. -/
theorem mapM_error_iff : l.mapM f = .error failure ↔ FirstFails f l failure := by
  induction l with
  | nil => exact iff_of_false (fun h => by cases h) not_firstFails_nil
  | cons a l ih =>
    rw [List.mapM_cons, bind_error_iff, firstFails_cons_iff, ← ih]
    refine or_congr_right ?_
    constructor
    · rintro ⟨x, hx, h⟩
      rcases bind_error_iff.mp h with h | ⟨xs, _, h⟩
      · exact ⟨⟨x, hx⟩, h⟩
      · cases h
    · rintro ⟨⟨x, hx⟩, h⟩
      exact ⟨x, hx, bind_error_iff.mpr (.inl h)⟩

theorem FirstFails.exists_mem (h : FirstFails f l failure) : ∃ a ∈ l, f a = .error failure := by
  obtain ⟨before, a, after, rfl, _, ha⟩ := h
  exact ⟨a, List.mem_append_right _ List.mem_cons_self, ha⟩

theorem forall_ok_iff : (∀ a ∈ l, ∃ x, f a = .ok x) ↔ ∀ failure, ¬FirstFails f l failure := by
  constructor
  · intro h failure hfails
    obtain ⟨a, ha, hfailure⟩ := hfails.exists_mem
    obtain ⟨x, hx⟩ := h a ha
    cases hfailure.symm.trans hx
  · intro h
    cases hl : l.mapM f with
    | ok xs => exact (mapM_ok_iff.mp hl).1
    | error failure => exact absurd (mapM_error_iff.mp hl) (h failure)

theorem exists_firstFails (ha : a ∈ l) (hfails : ¬∃ x, f a = .ok x) :
    ∃ failure, FirstFails f l failure :=
  Classical.byContradiction fun hnone =>
    hfails (forall_ok_iff.mpr (fun failure h => hnone ⟨failure, h⟩) a ha)

theorem firstFails_append_iff : FirstFails f (l ++ m) failure ↔
    FirstFails f l failure ∨ (∀ a ∈ l, ∃ x, f a = .ok x) ∧ FirstFails f m failure := by
  induction l with
  | nil => simp [not_firstFails_nil]
  | cons a l ih =>
    rw [List.cons_append, firstFails_cons_iff, ih, firstFails_cons_iff, List.forall_mem_cons,
      and_or_left, or_assoc, and_assoc]

/-- Where each step is itself a row of steps, it is the first of all of these that counts. -/
theorem firstFails_iff_flatMap {γ δ : Type} {F : γ → Except Failure δ} {g : γ → List α}
    {rows : List γ} (h : ∀ c failure, F c = .error failure ↔ FirstFails f (g c) failure) :
    FirstFails F rows failure ↔ FirstFails f (rows.flatMap g) failure := by
  induction rows with
  | nil => exact iff_of_false not_firstFails_nil not_firstFails_nil
  | cons c rows ih =>
    have hok : (∃ x, F c = .ok x) ↔ ∀ a ∈ g c, ∃ x, f a = .ok x := by
      rw [exists_ok_iff, forall_ok_iff]
      exact forall_congr' fun failure => not_congr (h c failure)
    rw [List.flatMap_cons, firstFails_cons_iff, firstFails_append_iff, ih, hok, h]

end FirstFails

end GraphAnswers
