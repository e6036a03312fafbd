import GraphAnswers.Proofs.Results
import GraphAnswers.Proofs.Unions
import GraphAnswers.Proofs.ValueLabels
/-!
# Results that are cut short

An insertion stores no anchor without values, and a truncation that keeps one value or more leaves
one to every anchor.  A truncation to none takes the values away and leaves the anchors, until values
are inserted for them again (`ResultMap.hasNoneFor_afterChanges`).
-/
namespace GraphAnswers.ResultMap

variable {m : ResultMap} {anchor : Element} {values : SortedSet Element} {n : Nat}

/-- A change of results. -/
inductive Change where
  /-- Values are inserted for an anchor. -/
  | insert (anchor : Element) (values : SortedSet Element)
  /-- No more than the first values of each anchor are kept. -/
  | truncate (n : Nat)

namespace Change

/-- The results after a change. -/
def apply (m : ResultMap) : Change → ResultMap
  | insert anchor values => (m.insert anchor values).1
  | truncate n => m.truncate n

/-- Whether a change stores something for an anchor. -/
def StoresFor (anchor : Element) : Change → Prop
  | insert other values => other = anchor ∧ ∃ v, v ∈ values
  | truncate _ => False

end Change

/-- The results after one change after another. -/
def afterChanges (changes : List Change) : ResultMap := changes.foldl Change.apply empty

theorem afterChanges_concat (changes : List Change) (c : Change) :
    afterChanges (changes ++ [c]) = c.apply (afterChanges changes) := List.foldl_concat _ _ _ _

/-- Whether an anchor is there without a value. -/
def HasNoneFor (m : ResultMap) (anchor : Element) : Prop :=
  ∃ values, m.find? anchor = some values ∧ ∀ v, v ∉ values

/-- **Whether the values of an anchor have been taken away**: it had some at a truncation to none, and
nothing has been stored for it since. -/
def TakenAway (changes : List Change) (anchor : Element) : Prop :=
  ∃ before since, changes = before ++ .truncate 0 :: since ∧
    (∃ c ∈ before, c.StoresFor anchor) ∧ ∀ c ∈ since, ¬c.StoresFor anchor

/-! ### One change -/

theorem hasNoneFor_iff : m.HasNoneFor anchor ↔
    ∃ values, m.find? anchor = some values ∧ values.isEmpty = true := by
  simp only [HasNoneFor, SortedSet.isEmpty_iff]

theorem isEmpty_take_succ (values : SortedSet Element) (n : Nat) :
    (values.take (n + 1)).isEmpty = values.isEmpty := by
  show (values.toList.take (n + 1)).isEmpty = values.toList.isEmpty
  cases values.toList <;> rfl

/-- A change that stores nothing for an anchor finds it as it was, unless it truncates. -/
theorem find?_insert_of_not_storesFor {other : Element}
    (h : ¬(Change.insert other values).StoresFor anchor) :
    (m.insert other values).1.find? anchor = m.find? anchor := by
  by_cases hsome : ∃ v, v ∈ values
  · rw [find?_insert m hsome, if_neg fun hsame => h ⟨hsame.symm, hsome⟩]
  · rw [insert_of_isEmpty (SortedSet.isEmpty_iff.mpr (not_exists.mp hsome))]

/-- An anchor that something is stored for is there with a value. -/
theorem exists_of_storesFor {other : Element} (h : (Change.insert other values).StoresFor anchor) :
    ∃ found, (m.insert other values).1.find? anchor = some found ∧ found.isEmpty = false := by
  obtain ⟨rfl, hsome⟩ := h
  rw [find?_insert m hsome, if_pos rfl]
  refine ⟨_, rfl, ?_⟩
  have hvalues := SortedSet.isEmpty_eq_false_iff.mpr hsome
  cases m.find? other with
  | none => exact hvalues
  | some old => exact SortedSet.isEmpty_union_of_right hvalues

/-- An anchor is there after a change if it was there or something is stored for it. -/
theorem exists_find?_apply (c : Change) : (∃ values, (c.apply m).find? anchor = some values) ↔
    c.StoresFor anchor ∨ ∃ values, m.find? anchor = some values := by
  cases c with
  | insert other values =>
    show (∃ found, (m.insert other values).1.find? anchor = some found) ↔ _
    by_cases hstores : (Change.insert other values).StoresFor anchor
    · obtain ⟨found, hfound, _⟩ := exists_of_storesFor (m := m) hstores
      exact iff_of_true ⟨found, hfound⟩ (.inl hstores)
    · rw [find?_insert_of_not_storesFor hstores, or_iff_right hstores]
  | truncate n =>
    show (∃ found, (m.truncate n).find? anchor = some found) ↔ False ∨ _
    rw [find?_truncate, false_or]
    cases m.find? anchor <;> simp

/-- A truncation to none leaves no value to an anchor. -/
theorem hasNoneFor_truncate_zero :
    (m.truncate 0).HasNoneFor anchor ↔ ∃ values, m.find? anchor = some values := by
  rw [hasNoneFor_iff, find?_truncate]
  constructor
  · rintro ⟨_, hfound, _⟩
    obtain ⟨values, hvalues, _⟩ := Option.map_eq_some_iff.mp hfound
    exact ⟨values, hvalues⟩
  · rintro ⟨values, hvalues⟩
    exact ⟨values.take 0, by rw [hvalues]; rfl, rfl⟩

/-- No other change takes the last value away from one. -/
theorem hasNoneFor_apply {c : Change} (hc : c ≠ .truncate 0) : (c.apply m).HasNoneFor anchor ↔
    ¬c.StoresFor anchor ∧ m.HasNoneFor anchor := by
  rw [hasNoneFor_iff, hasNoneFor_iff]
  cases c with
  | insert other values =>
    show (∃ found, (m.insert other values).1.find? anchor = some found ∧ _) ↔ _
    by_cases hstores : (Change.insert other values).StoresFor anchor
    · obtain ⟨found, hfound, hsome⟩ := exists_of_storesFor (m := m) hstores
      rw [hfound]
      refine iff_of_false ?_ fun h => h.1 hstores
      rintro ⟨_, hsame, hnone⟩
      cases hsame
      rw [hsome] at hnone
      cases hnone
    · rw [find?_insert_of_not_storesFor hstores, and_iff_right hstores]
  | truncate n =>
    cases n with
    | zero => exact absurd rfl hc
    | succ n =>
      show (∃ found, (m.truncate (n + 1)).find? anchor = some found ∧ _) ↔ ¬False ∧ _
      rw [find?_truncate, and_iff_right not_false]
      cases m.find? anchor with
      | none => simp
      | some values => simp [isEmpty_take_succ]

/-! ### One change after another -/

variable {changes : List Change}

/-- An anchor is there if something has been stored for it. -/
theorem exists_find?_afterChanges : (∃ values, (afterChanges changes).find? anchor = some values) ↔
    ∃ c ∈ changes, c.StoresFor anchor := by
  induction changes using List.reverseRecOn with
  | nil =>
    refine iff_of_false ?_ fun ⟨_, hc, _⟩ => by cases hc
    rintro ⟨_, hfound⟩
    cases hfound
  | append_singleton changes c ih =>
    rw [afterChanges_concat, exists_find?_apply, ih]
    simp [or_comm, or_and_right, exists_or]

theorem takenAway_concat_truncate_zero : TakenAway (changes ++ [.truncate 0]) anchor ↔
    ∃ c ∈ changes, c.StoresFor anchor := by
  constructor
  · rintro ⟨before, since, hsplit, ⟨c, hc, hstores⟩, _⟩
    -- whichever truncation to none it was, something had been stored before it
    have hmem : c ∈ changes ++ [.truncate 0] := by
      rw [hsplit]
      exact List.mem_append_left _ hc
    rcases List.mem_append.mp hmem with hmem | hmem
    · exact ⟨c, hmem, hstores⟩
    · obtain rfl := List.mem_singleton.mp hmem
      exact hstores.elim
  · exact fun hstored => ⟨changes, [], rfl, hstored, fun _ hc => by cases hc⟩

theorem takenAway_concat {c : Change} (hc : c ≠ .truncate 0) :
    TakenAway (changes ++ [c]) anchor ↔ ¬c.StoresFor anchor ∧ TakenAway changes anchor := by
  constructor
  · rintro ⟨before, since, hsplit, hstored, hsince⟩
    -- the last change is no truncation to none, so it belongs to what has happened since
    rcases List.eq_nil_or_concat' since with rfl | ⟨since, d, rfl⟩
    · exact absurd (List.singleton_inj.mp (List.append_inj' hsplit rfl).2) hc
    · rw [← List.cons_append, ← List.append_assoc] at hsplit
      obtain ⟨rfl, hlast⟩ := List.append_inj' hsplit rfl
      obtain rfl := List.singleton_inj.mp hlast
      exact ⟨hsince c (by simp), before, since, rfl, hstored,
        fun d hd => hsince d (List.mem_append_left _ hd)⟩
  · rintro ⟨hnot, before, since, rfl, hstored, hsince⟩
    refine ⟨before, since ++ [c], by simp, hstored, fun d hd => ?_⟩
    rcases List.mem_append.mp hd with hd | hd
    · exact hsince d hd
    · rwa [List.mem_singleton.mp hd]

theorem not_takenAway (h : .truncate 0 ∉ changes) : ¬TakenAway changes anchor := by
  rintro ⟨before, since, rfl, _⟩
  exact h (by simp)

/-- **An anchor is left without a value** where its values have been taken away, and only there. -/
theorem hasNoneFor_afterChanges :
    (afterChanges changes).HasNoneFor anchor ↔ TakenAway changes anchor := by
  induction changes using List.reverseRecOn with
  | nil =>
    refine iff_of_false ?_ (not_takenAway List.not_mem_nil)
    rintro ⟨_, hfound, _⟩
    cases hfound
  | append_singleton changes c ih =>
    rw [afterChanges_concat]
    by_cases hc : c = .truncate 0
    · subst hc
      rw [takenAway_concat_truncate_zero, ← exists_find?_afterChanges]
      exact hasNoneFor_truncate_zero
    · rw [hasNoneFor_apply hc, takenAway_concat hc, ih]

/-! ### Results without a value -/

theorem values_eq_nil_of_isEmpty (h : m.isEmpty = true) : m.values = [] := by
  have hnone : m.toList = [] := List.isEmpty_iff.mp h
  rw [values, hnone]
  rfl

/-- Results have an anchor but no value only if there is an anchor without one. -/
theorem isEmpty_iff_values : m.isEmpty = true ↔ m.values = [] ∧ ∀ anchor, ¬m.HasNoneFor anchor := by
  constructor
  · refine fun h => ⟨values_eq_nil_of_isEmpty h, ?_⟩
    rintro anchor ⟨values, hfound, _⟩
    rw [isEmpty_iff.mp h anchor] at hfound
    cases hfound
  · rintro ⟨hvalues, hnot⟩
    refine isEmpty_iff.mpr fun anchor => ?_
    cases hfound : m.find? anchor with
    | none => rfl
    | some values =>
      refine absurd ⟨values, hfound, fun v hv => ?_⟩ (hnot anchor)
      have hmem : v ∈ m.values := mem_values_of_mem (SortedMap.mem_of_find? hfound) hv
      rw [hvalues] at hmem
      cases hmem

/-- **Which anchors are left without a value.**  After any insertions and truncations an anchor is
there without a value exactly if its values have been taken away by a truncation to none, and results
with no anchor are those that hold no value and have no such anchor.  So without a truncation to none
every anchor has a value, and results are empty exactly if they hold no value at all. -/
theorem left_without_value (changes : List Change) :
    (∀ anchor, (afterChanges changes).HasNoneFor anchor ↔ TakenAway changes anchor) ∧
    ((afterChanges changes).isEmpty = true ↔
      (afterChanges changes).values = [] ∧ ∀ anchor, ¬TakenAway changes anchor) ∧
    (.truncate 0 ∉ changes →
      (∀ anchor ∈ (afterChanges changes).anchors, ∃ values,
        (afterChanges changes).find? anchor = some values ∧ ∃ v, v ∈ values) ∧
      ((afterChanges changes).isEmpty = true ↔ (afterChanges changes).values = [])) := by
  have hempty : (afterChanges changes).isEmpty = true ↔
      (afterChanges changes).values = [] ∧ ∀ anchor, ¬TakenAway changes anchor := by
    rw [isEmpty_iff_values]
    simp only [hasNoneFor_afterChanges]
  refine ⟨fun anchor => hasNoneFor_afterChanges, hempty, fun hnever => ⟨fun anchor hanchor => ?_, ?_⟩⟩
  · obtain ⟨values, hfound⟩ := mem_anchors.mp hanchor
    refine ⟨values, hfound, ?_⟩
    by_contra hnone
    exact not_takenAway hnever (hasNoneFor_afterChanges.mp ⟨values, hfound, not_exists.mp hnone⟩)
  · rw [hempty, and_iff_left fun _ => not_takenAway hnever]

/-! ### Two runs -/

/-- A film with its genres.  They are cut short, and an insertion of no values follows. -/
theorem left_without_value_film :
    let film : Element := ⟨.topic, "m.1", by decide⟩
    let genres : SortedSet Element := .ofList [⟨.topic, "m.3", by decide⟩, ⟨.topic, "m.2", by decide⟩]
    let changes : List Change := [.insert film genres, .truncate 1, .insert film .empty]
    .truncate 0 ∉ changes ∧ film ∈ (afterChanges changes).anchors ∧
      ∃ values, (afterChanges changes).find? film = some values ∧ ∃ v, v ∈ values := by
  intro film genres changes
  have hnever : .truncate 0 ∉ changes := by simp [changes]
  have hfilm : film ∈ (afterChanges changes).anchors := by decide
  exact ⟨hnever, hfilm, ((left_without_value changes).2.2 hnever).1 film hfilm⟩

/-- **A truncation to none leaves an anchor without a value**, and the results are not empty. -/
theorem film_left_without_value :
    let film : Element := ⟨.topic, "m.1", by decide⟩
    let changes : List Change :=
      [.insert film (.ofList [⟨.topic, "m.2", by decide⟩]), .truncate 0]
    (afterChanges changes).find? film = some .empty ∧ (afterChanges changes).isEmpty = false ∧
      (afterChanges changes).values = [] := by
  decide

end GraphAnswers.ResultMap
