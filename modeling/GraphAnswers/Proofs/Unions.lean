import GraphAnswers.Proofs.OnePredicate
import Mathlib.Data.List.Induction
/-!
# Results as unions

What results hold for an anchor is the union of all that has been inserted for it.  So they depend
neither on the order of the insertions nor on how the values are spread over them, and whoever walks
through them meets anchors and values in the order of elements (`ResultMap.unions_canonical`).
-/
namespace GraphAnswers

open Std

namespace SortedSet

variable {α : Type} [Ord α] [TransOrd α] [LawfulEqOrd α] {s t : SortedSet α}

theorem union_of_isEmpty_left (h : s.isEmpty = true) : s.union t = t :=
  ext fun a => by rw [mem_union, or_iff_right (isEmpty_iff.mp h a)]

theorem union_of_isEmpty_right (h : t.isEmpty = true) : s.union t = s :=
  ext fun a => by rw [mem_union, or_iff_left (isEmpty_iff.mp h a)]

theorem isEmpty_union_of_right (h : t.isEmpty = false) : (s.union t).isEmpty = false := by
  obtain ⟨a, ha⟩ := isEmpty_eq_false_iff.mp h
  exact isEmpty_eq_false_iff.mpr ⟨a, mem_union.mpr (.inr ha)⟩

end SortedSet

namespace Element

variable {a b : Element}

/-- **Whether an element comes before another one**: by their identifiers, and a topic before a type
of the same identifier. -/
def Before (a b : Element) : Prop :=
  a.id < b.id ∨ a.id = b.id ∧ a.kind = .topic ∧ b.kind = .type

theorem compare_eq_lt_iff : compare a b = .lt ↔ a.Before b := by
  have hkind : compare a.kind.rank b.kind.rank = .lt ↔ a.kind = .topic ∧ b.kind = .type := by
    cases a.kind <;> cases b.kind <;> decide
  show (compare a.id b.id).then (compare a.kind.rank b.kind.rank) = .lt ↔ _
  rw [Ordering.then_eq_lt, hkind, Std.compare_eq_iff_eq]
  exact or_congr_left compareOfLessAndEq_eq_lt

/-- Whoever walks through a set meets one member before the other. -/
theorem pairwise_before (s : SortedSet Element) : s.toList.Pairwise Before :=
  s.ascending.imp compare_eq_lt_iff.mp

end Element

namespace ResultMap

variable {entries : List (Element × SortedSet Element)} {anchor : Element}
  {values : SortedSet Element} {m : ResultMap}

theorem ext {m n : ResultMap} (h : ∀ anchor, m.find? anchor = n.find? anchor) : m = n := by
  cases m
  cases n
  exact congrArg mk (SortedMap.ext h)

/-- An insertion of no values changes nothing, and tells so. -/
theorem insert_of_isEmpty (h : values.isEmpty = true) : m.insert anchor values = (m, false) :=
  if_pos h

/-- An insertion tells whether there are values. -/
theorem insert_snd_iff : (m.insert anchor values).2 = true ↔ ∃ v, v ∈ values := by
  rw [← SortedSet.isEmpty_eq_false_iff, insert]
  cases values.isEmpty <;> simp

/-! ### One insertion after another -/

/-- The results of a sequence of insertions. -/
def ofInsertions (entries : List (Element × SortedSet Element)) : ResultMap :=
  entries.foldl (fun m e => (m.insert e.1 e.2).1) empty

theorem ofInsertions_concat (e : Element × SortedSet Element) :
    ofInsertions (entries ++ [e]) = ((ofInsertions entries).insert e.1 e.2).1 :=
  List.foldl_concat _ _ _ _

/-- The union of all that is inserted for an anchor. -/
def received (entries : List (Element × SortedSet Element)) (anchor : Element) :
    SortedSet Element :=
  (entries.filter fun e => decide (e.1 = anchor)).foldl (fun s e => s.union e.2) .empty

theorem mem_received {v : Element} :
    v ∈ received entries anchor ↔ ∃ values, (anchor, values) ∈ entries ∧ v ∈ values := by
  unfold received
  rw [SortedSet.mem_foldl_union, or_iff_right (SortedSet.not_mem_empty v)]
  constructor
  · rintro ⟨⟨_, values⟩, he, hv⟩
    obtain ⟨he, hanchor⟩ := List.mem_filter.mp he
    have hanchor : _ = anchor := of_decide_eq_true hanchor
    exact ⟨values, hanchor ▸ he, hv⟩
  · rintro ⟨values, he, hv⟩
    exact ⟨(anchor, values), List.mem_filter.mpr ⟨he, decide_eq_true rfl⟩, hv⟩

theorem received_concat (e : Element × SortedSet Element) : received (entries ++ [e]) anchor =
    if e.1 = anchor then (received entries anchor).union e.2 else received entries anchor := by
  unfold received
  rw [List.filter_append, List.foldl_append]
  by_cases he : e.1 = anchor
  · simp [he]
  · simp [he]

/-- **What insertions leave for an anchor**: the union of all that was inserted for it, unless that is
nothing. -/
theorem find?_ofInsertions (entries : List (Element × SortedSet Element)) (anchor : Element) :
    (ofInsertions entries).find? anchor =
      if (received entries anchor).isEmpty then none else some (received entries anchor) := by
  induction entries using List.reverseRecOn with
  | nil => rfl
  | append_singleton entries e ih =>
    obtain ⟨other, values⟩ := e
    rw [ofInsertions_concat, received_concat]
    dsimp only
    by_cases hnone : values.isEmpty = true
    · rw [insert_of_isEmpty hnone, ih, SortedSet.union_of_isEmpty_right hnone, ite_self]
    have hsome : values.isEmpty = false := Bool.eq_false_iff.mpr hnone
    rw [find?_insert _ (SortedSet.isEmpty_eq_false_iff.mp hsome)]
    by_cases hsame : anchor = other
    · -- the first values for an anchor are stored as they are, later ones are united with them
      subst hsame
      rw [if_pos rfl, if_pos rfl, ih, SortedSet.isEmpty_union_of_right hsome]
      by_cases hbefore : (received entries anchor).isEmpty = true
      · rw [if_pos hbefore, SortedSet.union_of_isEmpty_left hbefore]
        rfl
      · rw [if_neg hbefore]
        rfl
    · rw [if_neg hsame, if_neg (Ne.symm hsame), ih]

/-- **Results are unions, in one form only.**  If every anchor receives the same values, all taken
together, the results are the same, and so is a walk through them.  An anchor has the union of what
was inserted for it, and it is left out if that was nothing.  An insertion tells whether there are
values; if there are none, nothing changes.  Anchors and values are met in the order of elements. -/
theorem unions_canonical (entries others : List (Element × SortedSet Element)) :
    ((∀ anchor, received entries anchor = received others anchor) →
      ofInsertions entries = ofInsertions others ∧
        (ofInsertions entries).toList = (ofInsertions others).toList) ∧
    (∀ anchor, (∃ values, (anchor, values) ∈ entries ∧ ∃ v, v ∈ values) →
      (ofInsertions entries).find? anchor = some (received entries anchor)) ∧
    (∀ anchor, (∀ values, (anchor, values) ∈ entries → ∀ v, v ∉ values) →
      (ofInsertions entries).find? anchor = none) ∧
    (∀ anchor v, v ∈ received entries anchor ↔ ∃ values, (anchor, values) ∈ entries ∧ v ∈ values) ∧
    (∀ (m : ResultMap) anchor values, ((m.insert anchor values).2 = true ↔ ∃ v, v ∈ values) ∧
      ((m.insert anchor values).2 = false → (m.insert anchor values).1 = m)) ∧
    (ofInsertions entries).anchors.Pairwise Element.Before ∧
    ∀ entry ∈ (ofInsertions entries).toList, entry.2.toList.Pairwise Element.Before := by
  refine ⟨fun hsame => ?_, fun anchor hsome => ?_, fun anchor hnone => ?_,
    fun _ _ => mem_received, fun m anchor values => ⟨insert_snd_iff, fun hnone => ?_⟩, ?_,
    fun entry _ => Element.pairwise_before entry.2⟩
  · have hresults : ofInsertions entries = ofInsertions others :=
      ext fun anchor => by rw [find?_ofInsertions, find?_ofInsertions, hsame]
    exact ⟨hresults, congrArg toList hresults⟩
  · obtain ⟨values, he, v, hv⟩ := hsome
    have hreceived : (received entries anchor).isEmpty = false :=
      SortedSet.isEmpty_eq_false_iff.mpr ⟨v, mem_received.mpr ⟨values, he, hv⟩⟩
    rw [find?_ofInsertions, hreceived]
    rfl
  · have hreceived : (received entries anchor).isEmpty = true :=
      SortedSet.isEmpty_iff.mpr fun v hv => by
        obtain ⟨values, he, hv⟩ := mem_received.mp hv
        exact hnone values he v hv
    rw [find?_ofInsertions, if_pos hreceived]
  · have hempty : values.isEmpty = true := by
      rw [SortedSet.isEmpty_iff]
      exact fun v hv => Bool.eq_false_iff.mp hnone (insert_snd_iff.mpr ⟨v, hv⟩)
    rw [insert_of_isEmpty hempty]
  · exact (ofInsertions entries).entries.ascending.imp Element.compare_eq_lt_iff.mp

/-! ### Two sequences -/

/-- Insertions for a topic and for a type with the same identifier. -/
def twoAnchors : List (Element × SortedSet Element) :=
  [(⟨.type, "m1", by decide⟩, .ofList [⟨.type, "a1", by decide⟩, ⟨.topic, "a1", by decide⟩]),
    (⟨.topic, "m1", by decide⟩, .empty),
    (⟨.topic, "m1", by decide⟩, .ofList [⟨.topic, "b1", by decide⟩, ⟨.topic, "a1", by decide⟩]),
    (⟨.topic, "m2", by decide⟩, .empty)]

/-- The same values, spread over other insertions. -/
def twoAnchorsSpread : List (Element × SortedSet Element) :=
  [(⟨.topic, "m1", by decide⟩, .ofList [⟨.topic, "b1", by decide⟩]),
    (⟨.type, "m1", by decide⟩, .ofList [⟨.topic, "a1", by decide⟩]),
    (⟨.topic, "m1", by decide⟩, .ofList [⟨.topic, "a1", by decide⟩, ⟨.topic, "b1", by decide⟩]),
    (⟨.type, "m1", by decide⟩, .ofList [⟨.type, "a1", by decide⟩])]

theorem unions_canonical_twoAnchors :
    (∀ anchor, received twoAnchors anchor = received twoAnchorsSpread anchor) ∧
      ofInsertions twoAnchors = ofInsertions twoAnchorsSpread ∧
      (ofInsertions twoAnchors).find? ⟨.topic, "m2", by decide⟩ = none := by
  have hsame : ∀ anchor, received twoAnchors anchor = received twoAnchorsSpread anchor := by
    intro anchor
    by_cases htopic : anchor = ⟨.topic, "m1", by decide⟩
    · subst htopic
      decide
    by_cases htype : anchor = ⟨.type, "m1", by decide⟩
    · subst htype
      decide
    refine SortedSet.ext fun v => ?_
    rw [mem_received, mem_received]
    simp [twoAnchors, twoAnchorsSpread, htopic, htype]
  obtain ⟨heq, _, hnone, _⟩ := unions_canonical twoAnchors twoAnchorsSpread
  refine ⟨hsame, (heq hsame).1, hnone _ fun values hvalues => ?_⟩
  obtain rfl : values = .empty := by simpa [twoAnchors] using hvalues
  exact SortedSet.not_mem_empty

end ResultMap

end GraphAnswers
