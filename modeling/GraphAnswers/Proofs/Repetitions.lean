import Mathlib.Data.List.Induction
import Mathlib.Data.List.Nodup
/-!
# Lists without their repetitions

`List.eraseDups` keeps the first of equal elements.  It is told how it goes along with adding an
element at the end, with keeping some of the elements, and with moving an element to the front.
-/
namespace GraphAnswers

variable {α : Type} [DecidableEq α]

/-- A list without repetitions gains the element at the end only if it is new. -/
theorem eraseDups_concat (l : List α) (a : α) :
    (l ++ [a]).eraseDups = if a ∈ l then l.eraseDups else l.eraseDups ++ [a] := by
  rw [List.eraseDups_append]
  by_cases h : a ∈ l <;> simp [List.removeAll, List.eraseDups_cons, h]

theorem nodup_eraseDups (l : List α) : l.eraseDups.Nodup := by
  induction l using List.reverseRecOn with
  | nil => exact List.nodup_nil
  | append_singleton l a ih =>
    rw [eraseDups_concat]
    by_cases h : a ∈ l
    · rwa [if_pos h]
    · rw [if_neg h]
      refine List.nodup_append.mpr ⟨ih, List.nodup_singleton a, fun b hb c hc hbc => h ?_⟩
      rw [← List.mem_singleton.mp hc, ← hbc]
      exact List.mem_eraseDups.mp hb

theorem eraseDups_filter (p : α → Bool) (l : List α) :
    (l.filter p).eraseDups = l.eraseDups.filter p := by
  induction l using List.reverseRecOn with
  | nil => rfl
  | append_singleton l a ih =>
    rw [List.filter_append, eraseDups_concat]
    by_cases hp : p a = true
    · rw [List.filter_cons_of_pos hp, List.filter_nil, eraseDups_concat, ih]
      by_cases ha : a ∈ l
      · rw [if_pos ha, if_pos (List.mem_filter.mpr ⟨ha, hp⟩)]
      · rw [if_neg ha, if_neg fun h => ha (List.mem_filter.mp h).1, List.filter_append,
          List.filter_cons_of_pos hp, List.filter_nil]
    · rw [List.filter_cons_of_neg hp, List.filter_nil, List.append_nil, ih]
      split
      · rfl
      · rw [List.filter_append, List.filter_cons_of_neg hp, List.filter_nil, List.append_nil]

/-- An element added in front is the first, whether or not it occurred before. -/
theorem eraseDups_cons_filter (a : α) (l : List α) :
    (a :: l).eraseDups = a :: l.eraseDups.filter fun b => decide (b ≠ a) := by
  rw [List.eraseDups_cons, ← eraseDups_filter]
  congr 3
  funext b
  rw [beq_eq_decide, decide_not]

/-- Where one element is taken out, the first `n` that are left are among the first `n + 1`. -/
theorem take_filter_ne {l : List α} (h : l.Nodup) (a : α) (n : Nat) :
    ((l.take (n + 1)).filter fun b => decide (b ≠ a)).take n =
      (l.filter fun b => decide (b ≠ a)).take n := by
  induction l generalizing n with
  | nil => simp
  | cons b l ih =>
    obtain ⟨hb, hl⟩ := List.nodup_cons.mp h
    rw [List.take_succ_cons]
    by_cases hba : b = a
    · subst hba
      have hothers : ∀ c ∈ l, decide (c ≠ b) = true :=
        fun c hc => decide_eq_true fun hcb => hb (hcb ▸ hc)
      rw [List.filter_cons_of_neg (by simp), List.filter_cons_of_neg (by simp),
        List.filter_eq_self.mpr fun c hc => hothers c (List.mem_of_mem_take hc),
        List.filter_eq_self.mpr hothers, List.take_take, Nat.min_self]
    · rw [List.filter_cons_of_pos (by simpa using hba),
        List.filter_cons_of_pos (by simpa using hba)]
      cases n with
      | zero => rfl
      | succ n => rw [List.take_succ_cons, List.take_succ_cons, ih hl]

/-- **Moving to the front and keeping so many go together**: it does not matter what there was
beyond those that were kept already. -/
theorem take_cons_filter_ne {l : List α} (h : l.Nodup) (a : α) (n : Nat) :
    (a :: (l.take n).filter fun b => decide (b ≠ a)).take n =
      (a :: l.filter fun b => decide (b ≠ a)).take n := by
  cases n with
  | zero => rfl
  | succ n => rw [List.take_succ_cons, List.take_succ_cons, take_filter_ne h]

end GraphAnswers
