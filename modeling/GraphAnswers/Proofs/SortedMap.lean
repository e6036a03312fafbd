import GraphAnswers.SortedMap
import Mathlib.Data.List.Basic
/-!
# Finding what was put into a sorted map

What is found under a key tells what an insertion or a removal does, and it tells the whole map: maps
in which the same is found under every key are equal (`SortedMap.ext`).
-/
namespace GraphAnswers.SortedMap

open Std

variable {κ β γ : Type} [Ord κ] [DecidableEq κ]

/-- The value of the first entry for `k` in a list. -/
theorem find?_eq (m : SortedMap κ β) (k : κ) :
    m.find? k = (m.toList.find? fun e => decide (e.1 = k)).map Prod.snd := rfl

theorem mem_keys_iff {m : SortedMap κ β} {k : κ} : k ∈ m.keys ↔ ∃ b, m.find? k = some b := by
  unfold keys find?
  constructor
  · intro hk
    obtain ⟨e, he, rfl⟩ := List.mem_map.mp hk
    have hsome : (m.toList.find? fun e' => decide (e'.1 = e.1)).isSome :=
      List.find?_isSome.mpr ⟨e, he, by simp⟩
    obtain ⟨e', he'⟩ := Option.isSome_iff_exists.mp hsome
    exact ⟨e'.2, by rw [he']; rfl⟩
  · rintro ⟨b, hb⟩
    obtain ⟨e, he, _⟩ := Option.map_eq_some_iff.mp hb
    have hk : e.1 = k := by simpa using List.find?_some he
    exact List.mem_map.mpr ⟨e, List.mem_of_find?_eq_some he, hk⟩

theorem isEmpty_iff {m : SortedMap κ β} : m.isEmpty = true ↔ ∀ k, m.find? k = none := by
  unfold isEmpty
  rw [List.isEmpty_iff]
  constructor
  · intro h k
    rw [find?_eq, h]
    rfl
  · intro h
    rw [← List.map_eq_nil_iff (f := Prod.fst), List.eq_nil_iff_forall_not_mem]
    intro k hk
    obtain ⟨b, hb⟩ := mem_keys_iff.mp hk
    rw [h k] at hb
    cases hb

theorem find?_erase (m : SortedMap κ β) (k k' : κ) :
    (m.erase k).find? k' = if k' = k then none else m.find? k' := by
  unfold find? erase
  rw [List.find?_filter]
  by_cases h : k' = k
  · subst h
    rw [if_pos rfl, List.find?_eq_none.mpr]
    · rfl
    · intro e _
      simp
  · rw [if_neg h]
    congr 2
    funext e
    by_cases he : e.1 = k'
    · simp [he, h]
    · simp [he]

section Insertion
variable [TransOrd κ] [LawfulEqOrd κ]

omit [DecidableEq κ] [LawfulEqOrd κ] in
theorem irreflexive (k : κ) : compare k k ≠ .lt := by
  have h : compare k k = .eq := ReflCmp.compare_self
  rw [h]
  exact fun h => by cases h

/-- Where the keys ascend, an entry that has been put in its place is found there. -/
theorem find?_place_self (k : κ) (b : β) (combine : β → β) {l : List (κ × β)}
    (hl : (l.map Prod.fst).Pairwise fun a b => compare a b = .lt) :
    ((place k b combine l).find? fun e => decide (e.1 = k)).map Prod.snd =
      some (((l.find? fun e => decide (e.1 = k)).map Prod.snd).elim b combine) := by
  induction l with
  | nil => simp [place]
  | cons e l ih =>
    obtain ⟨k', b'⟩ := e
    obtain ⟨hhead, htail⟩ := List.pairwise_cons.mp hl
    unfold place
    split
    · rename_i hlt
      -- the keys from here on are greater, so there was no entry
      have habsent : ((k', b') :: l).find? (fun e => decide (e.1 = k)) = none := by
        refine List.find?_eq_none.mpr fun e he => ?_
        rw [decide_eq_true_eq]
        rintro rfl
        have hgt : compare e.1 e.1 = .lt := by
          rcases List.mem_cons.mp he with rfl | he
          · exact hlt
          · exact TransCmp.lt_trans hlt (hhead e.1 (List.mem_map_of_mem he))
        exact absurd hgt (irreflexive e.1)
      rw [habsent]
      simp
    · rename_i heq
      have : k = k' := LawfulEqCmp.eq_of_compare heq
      subst this
      simp
    · rename_i hgt
      have hne : k' ≠ k := by
        rintro rfl
        exact irreflexive k' (OrientedCmp.gt_iff_lt.mp hgt)
      rw [List.find?_cons_of_neg (by simpa using hne), List.find?_cons_of_neg (by simpa using hne)]
      exact ih htail

omit [TransOrd κ] in
/-- Other keys have the entries they had. -/
theorem find?_place_of_ne {k k' : κ} (h : k' ≠ k) (b : β) (combine : β → β) (l : List (κ × β)) :
    ((place k b combine l).find? fun e => decide (e.1 = k')).map Prod.snd =
      (l.find? fun e => decide (e.1 = k')).map Prod.snd := by
  induction l with
  | nil => simp [place, Ne.symm h]
  | cons e l ih =>
    obtain ⟨k₁, b₁⟩ := e
    unfold place
    split
    · rw [List.find?_cons_of_neg (by simpa using Ne.symm h)]
    · rename_i heq
      have : k = k₁ := LawfulEqCmp.eq_of_compare heq
      subst this
      rw [List.find?_cons_of_neg (by simpa using Ne.symm h),
        List.find?_cons_of_neg (by simpa using Ne.symm h)]
    · by_cases h₁ : k₁ = k'
      · simp [h₁]
      · rw [List.find?_cons_of_neg (by simpa using h₁), List.find?_cons_of_neg (by simpa using h₁)]
        exact ih

/-- **What is found after an insertion.** -/
theorem find?_insertWith (m : SortedMap κ β) (k k' : κ) (b : β) (combine : β → β) :
    (m.insertWith k b combine).find? k' =
      if k' = k then some ((m.find? k).elim b combine) else m.find? k' := by
  by_cases h : k' = k
  · subst h
    rw [if_pos rfl]
    exact find?_place_self k' b combine m.ascending
  · rw [if_neg h]
    exact find?_place_of_ne h b combine m.toList

theorem find?_insert (m : SortedMap κ β) (k k' : κ) (b : β) :
    (m.insert k b).find? k' = if k' = k then some b else m.find? k' := by
  unfold insert
  rw [find?_insertWith]
  cases m.find? k <;> rfl

@[simp] theorem find?_insert_self (m : SortedMap κ β) (k : κ) (b : β) :
    (m.insert k b).find? k = some b := by
  rw [find?_insert, if_pos rfl]

/-! ### Entries -/

omit [LawfulEqOrd κ] in
/-- An entry is found by its key. -/
theorem find?_of_mem {m : SortedMap κ β} {k : κ} {b : β} (h : (k, b) ∈ m.toList) :
    m.find? k = some b := by
  obtain ⟨before, after, hsplit⟩ := List.append_of_mem h
  have hasc := m.ascending
  rw [hsplit, List.map_append, List.map_cons] at hasc
  have hbefore : ∀ e ∈ before, ¬(decide (e.1 = k)) = true := by
    intro e he
    rw [decide_eq_true_eq]
    rintro rfl
    have hlt := (List.pairwise_append.mp hasc).2.2 e.1 (List.mem_map_of_mem he) e.1
      List.mem_cons_self
    exact irreflexive e.1 hlt
  unfold find?
  rw [hsplit, List.find?_append, List.find?_eq_none.mpr hbefore]
  simp

omit [TransOrd κ] [LawfulEqOrd κ] in
/-- What is found under a key is the value of one of its entries. -/
theorem mem_of_find? {m : SortedMap κ β} {k : κ} {b : β} (h : m.find? k = some b) :
    (k, b) ∈ m.toList := by
  obtain ⟨e, he, rfl⟩ := Option.map_eq_some_iff.mp h
  obtain rfl : e.1 = k := by simpa using List.find?_some he
  exact List.mem_of_find?_eq_some he

/-! ### Equality -/

omit [LawfulEqOrd κ] in
/-- The entries are those that are found, in the order of the keys. -/
theorem toList_eq_filterMap (m : SortedMap κ β) :
    m.toList = m.keys.filterMap fun k => (m.find? k).map (Prod.mk k) := by
  have hentry : ∀ e ∈ m.toList, ((fun k => (m.find? k).map (Prod.mk k)) ∘ Prod.fst) e = some e := by
    intro e he
    show (m.find? e.1).map (Prod.mk e.1) = some e
    rw [find?_of_mem he]
    rfl
  rw [keys, List.filterMap_map, List.filterMap_congr hentry, List.filterMap_some]

omit [LawfulEqOrd κ] in
/-- **Maps in which the same is found are equal.** -/
theorem ext {m n : SortedMap κ β} (h : ∀ k, m.find? k = n.find? k) : m = n := by
  have hkeys : m.keys = n.keys := by
    refine SortedSet.eq_of_same_members m.ascending n.ascending fun k => ?_
    show k ∈ m.keys ↔ k ∈ n.keys
    rw [mem_keys_iff, mem_keys_iff, h]
  refine toList_injective ?_
  rw [toList_eq_filterMap, toList_eq_filterMap, hkeys]
  exact List.filterMap_congr fun k _ => by rw [h]

/-! ### Setting an entry twice, and as it is -/

theorem insert_insert (m : SortedMap κ β) (k : κ) (a b : β) :
    (m.insert k a).insert k b = m.insert k b := by
  refine ext fun k' => ?_
  rw [find?_insert, find?_insert, find?_insert]
  by_cases h : k' = k
  · rw [if_pos h, if_pos h]
  · rw [if_neg h, if_neg h, if_neg h]

theorem insert_of_find? {m : SortedMap κ β} {k : κ} {b : β} (h : m.find? k = some b) :
    m.insert k b = m := by
  refine ext fun k' => ?_
  rw [find?_insert]
  by_cases hk : k' = k
  · rw [if_pos hk, hk, h]
  · rw [if_neg hk]

/-! ### Selections -/

omit [DecidableEq κ] [TransOrd κ] in
/-- A selection that passes over the entries of a key does not notice another one. -/
theorem filterMap_place {k : κ} {b : β} {l : List (κ × β)} (f : κ × β → Option γ)
    (hnew : f (k, b) = none) (hold : ∀ b', (k, b') ∈ l → f (k, b') = none) :
    (place k b (fun _ => b) l).filterMap f = l.filterMap f := by
  induction l with
  | nil => simp [place, hnew]
  | cons e l ih =>
    obtain ⟨k', b'⟩ := e
    have hrest := ih fun b' hb' => hold b' (List.mem_cons_of_mem _ hb')
    unfold place
    split
    · rw [List.filterMap_cons_none hnew]
    · rename_i heq
      have : k = k' := LawfulEqCmp.eq_of_compare heq
      subst this
      rw [List.filterMap_cons_none hnew, List.filterMap_cons_none (hold b' List.mem_cons_self)]
    · rw [List.filterMap_cons, List.filterMap_cons, hrest]

end Insertion

end GraphAnswers.SortedMap
