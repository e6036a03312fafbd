/-!
# Sets kept in ascending order

A `SortedSet` is a list in strictly ascending order, so a set has one representation only: two sets
with the same members are equal (`SortedSet.ext`), and whoever walks through a set meets its members
in order and each of them once.  The insertion is one pass over the list.
-/
namespace GraphAnswers

open Std

/-- A finite set, listed in strictly ascending order. -/
structure SortedSet (α : Type) [Ord α] where
  /-- The members, each once, in ascending order. -/
  toList : List α
  ascending : toList.Pairwise fun a b => compare a b = .lt

namespace SortedSet

variable {α β : Type} [Ord α] [Ord β]

/-! ### One insertion -/

/-- Puts `a` in its place in an ascending list, unless it is there already. -/
def place (a : α) : List α → List α
  | [] => [a]
  | b :: l =>
    match compare a b with
    | .lt => a :: b :: l
    | .eq => b :: l
    | .gt => b :: place a l

theorem mem_place [LawfulEqOrd α] {a x : α} {l : List α} : x ∈ place a l ↔ x = a ∨ x ∈ l := by
  induction l with
  | nil => simp [place]
  | cons b l ih =>
    unfold place
    split
    · simp
    · rename_i h
      have : a = b := LawfulEqCmp.eq_of_compare h
      subst this
      simp
    · simp only [List.mem_cons, ih]
      constructor
      · rintro (h | h | h)
        · exact .inr (.inl h)
        · exact .inl h
        · exact .inr (.inr h)
      · rintro (h | h | h)
        · exact .inr (.inl h)
        · exact .inl h
        · exact .inr (.inr h)

theorem ascending_place [TransOrd α] [LawfulEqOrd α] {a : α} {l : List α}
    (h : l.Pairwise fun a b => compare a b = .lt) :
    (place a l).Pairwise fun a b => compare a b = .lt := by
  induction l with
  | nil => simp [place]
  | cons b l ih =>
    have hb := List.pairwise_cons.1 h
    unfold place
    split
    · rename_i hab
      refine List.pairwise_cons.2 ⟨fun c hc => ?_, h⟩
      rcases List.mem_cons.1 hc with rfl | hc
      · exact hab
      · exact TransCmp.lt_trans hab (hb.1 c hc)
    · exact h
    · rename_i hab
      refine List.pairwise_cons.2 ⟨fun c hc => ?_, ih hb.2⟩
      rcases mem_place.1 hc with rfl | hc
      · exact OrientedCmp.gt_iff_lt.1 hab
      · exact hb.1 c hc

/-! ### The operations -/

instance : Membership α (SortedSet α) := ⟨fun s a => a ∈ s.toList⟩

theorem mem_def {a : α} {s : SortedSet α} : a ∈ s ↔ a ∈ s.toList := Iff.rfl

instance [DecidableEq α] (a : α) (s : SortedSet α) : Decidable (a ∈ s) :=
  inferInstanceAs (Decidable (a ∈ s.toList))

theorem toList_injective {s t : SortedSet α} (h : s.toList = t.toList) : s = t := by
  cases s; cases t; cases h; rfl

instance [DecidableEq α] : DecidableEq (SortedSet α) := fun s t =>
  if h : s.toList = t.toList then .isTrue (toList_injective h)
  else .isFalse fun e => h (e ▸ rfl)

/-- The set without members. -/
def empty : SortedSet α := ⟨[], .nil⟩

instance : EmptyCollection (SortedSet α) := ⟨empty⟩
instance : Inhabited (SortedSet α) := ⟨empty⟩

/-- The set of one member. -/
def singleton (a : α) : SortedSet α := ⟨[a], by simp⟩

/-- The number of members. -/
def size (s : SortedSet α) : Nat := s.toList.length

/-- Whether there is no member. -/
def isEmpty (s : SortedSet α) : Bool := s.toList.isEmpty

/-- Whether `a` is a member. -/
def contains [DecidableEq α] (s : SortedSet α) (a : α) : Bool := decide (a ∈ s)

/-- The greatest member. -/
def last? (s : SortedSet α) : Option α := s.toList.getLast?

/-- The members that satisfy `p`. -/
def filter (p : α → Bool) (s : SortedSet α) : SortedSet α :=
  ⟨s.toList.filter p, s.ascending.sublist List.filter_sublist⟩

/-- The first `n` members. -/
def take (n : Nat) (s : SortedSet α) : SortedSet α :=
  ⟨s.toList.take n, s.ascending.sublist (List.take_sublist n _)⟩

section Insertion

variable [TransOrd α] [LawfulEqOrd α] [TransOrd β] [LawfulEqOrd β]

/-- The set with one more member. -/
def insert (s : SortedSet α) (a : α) : SortedSet α := ⟨place a s.toList, ascending_place s.ascending⟩

/-- The set of the members of a list. -/
def ofList (l : List α) : SortedSet α := l.foldr (fun a s => s.insert a) empty

/-- The members of either set. -/
def union (s t : SortedSet α) : SortedSet α := t.toList.foldr (fun a u => u.insert a) s

/-- The images of the members. -/
def map (f : α → β) (s : SortedSet α) : SortedSet β := ofList (s.toList.map f)

end Insertion

/-! ### Membership -/

@[simp] theorem not_mem_empty (a : α) : a ∉ (empty : SortedSet α) := by simp [mem_def, empty]

@[simp] theorem mem_filter {p : α → Bool} {s : SortedSet α} {a : α} :
    a ∈ s.filter p ↔ a ∈ s ∧ p a = true := by simp [mem_def, filter]

theorem isEmpty_iff {s : SortedSet α} : s.isEmpty = true ↔ ∀ a, a ∉ s := by
  simp [isEmpty, mem_def, List.eq_nil_iff_forall_not_mem]

section Insertion

variable [TransOrd α] [LawfulEqOrd α] [TransOrd β] [LawfulEqOrd β]

@[simp] theorem mem_insert {s : SortedSet α} {a x : α} : x ∈ s.insert a ↔ x = a ∨ x ∈ s := mem_place

@[simp] theorem mem_ofList {l : List α} {x : α} : x ∈ ofList l ↔ x ∈ l := by
  induction l with
  | nil => simp [ofList]
  | cons a l ih =>
    have : ofList (a :: l) = (ofList l).insert a := rfl
    rw [this, mem_insert, ih, List.mem_cons]

@[simp] theorem mem_union {s t : SortedSet α} {x : α} : x ∈ s.union t ↔ x ∈ s ∨ x ∈ t := by
  have h : ∀ l : List α, x ∈ l.foldr (fun a u => u.insert a) s ↔ x ∈ s ∨ x ∈ l := by
    intro l
    induction l with
    | nil => simp
    | cons a l ih =>
      rw [List.foldr_cons, mem_insert, ih, List.mem_cons]
      constructor
      · rintro (h | h | h)
        · exact .inr (.inl h)
        · exact .inl h
        · exact .inr (.inr h)
      · rintro (h | h | h)
        · exact .inr (.inl h)
        · exact .inl h
        · exact .inr (.inr h)
  exact h t.toList

omit [TransOrd α] [LawfulEqOrd α] in
@[simp] theorem mem_map {f : α → β} {s : SortedSet α} {y : β} :
    y ∈ s.map f ↔ ∃ x, x ∈ s ∧ f x = y := by
  rw [map, mem_ofList, List.mem_map]
  exact Iff.rfl

end Insertion

/-- In an ascending list, the head is smaller than every other member. -/
theorem head_eq_of_same_members [TransOrd α] {a b : α} {l m : List α}
    (hl : (a :: l).Pairwise fun a b => compare a b = .lt)
    (hm : (b :: m).Pairwise fun a b => compare a b = .lt)
    (h : ∀ x, x ∈ a :: l ↔ x ∈ b :: m) : a = b := by
  rcases List.mem_cons.1 ((h a).1 (by simp)) with hab | ham
  · exact hab
  rcases List.mem_cons.1 ((h b).2 (by simp)) with hba | hbl
  · exact hba.symm
  have h1 := (List.pairwise_cons.1 hm).1 a ham
  have h2 := (List.pairwise_cons.1 hl).1 b hbl
  have h3 := TransCmp.lt_trans h1 h2
  have h4 : compare b b = .eq := ReflCmp.compare_self
  rw [h4] at h3
  cases h3

theorem eq_of_same_members [TransOrd α] : ∀ {l m : List α},
    l.Pairwise (fun a b => compare a b = .lt) → m.Pairwise (fun a b => compare a b = .lt) →
    (∀ x, x ∈ l ↔ x ∈ m) → l = m
  | [], [], _, _, _ => rfl
  | [], b :: m, _, _, h => absurd ((h b).2 (by simp)) (by simp)
  | a :: l, [], _, _, h => absurd ((h a).1 (by simp)) (by simp)
  | a :: l, b :: m, hl, hm, h => by
    have hab := head_eq_of_same_members hl hm h
    subst hab
    have hl' := List.pairwise_cons.1 hl
    have hm' := List.pairwise_cons.1 hm
    have irrefl : ∀ {x : α}, compare x x ≠ .lt := fun {x} h' => by
      have : compare x x = .eq := ReflCmp.compare_self
      rw [this] at h'
      cases h'
    rw [eq_of_same_members hl'.2 hm'.2 fun x => ?_]
    constructor
    · intro hx
      rcases List.mem_cons.1 ((h x).1 (List.mem_cons_of_mem a hx)) with rfl | hx'
      · exact absurd (hl'.1 x hx) irrefl
      · exact hx'
    · intro hx
      rcases List.mem_cons.1 ((h x).2 (List.mem_cons_of_mem a hx)) with rfl | hx'
      · exact absurd (hm'.1 x hx) irrefl
      · exact hx'

/-- **Sets with the same members are equal.** -/
theorem ext [TransOrd α] {s t : SortedSet α} (h : ∀ a, a ∈ s ↔ a ∈ t) : s = t :=
  toList_injective (eq_of_same_members s.ascending t.ascending h)

end SortedSet

end GraphAnswers
