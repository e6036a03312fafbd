import GraphAnswers.Text.Words
import Mathlib.Data.List.TakeWhile
/-!
# Margins, and the last separator

A text is its blank margins and what is left when they are dropped (`Text.exists_margins`), and it
is left as it is where it begins and ends with something (`Text.trimmed_eq_self`).  Where a text is
split at the last separator, the part after it has none (`Text.of_splitLast?`).
-/
namespace GraphAnswers.Text

/-- Whether characters are blank, all of them. -/
def IsMargin (cs : List Char) : Prop := ∀ c ∈ cs, isBlank c = true

instance (cs : List Char) : Decidable (IsMargin cs) :=
  decidable_of_iff (cs.all isBlank = true) List.all_eq_true

/-! ### Margins -/

theorem trimFront_append {lead : List Char} (h : IsMargin lead) (cs : List Char) :
    trimFront (lead ++ cs) = trimFront cs :=
  List.dropWhile_append_of_pos h

theorem trimBack_append {trail : List Char} (h : IsMargin trail) (cs : List Char) :
    trimBack (cs ++ trail) = trimBack cs := by
  unfold trimBack dropEndWhile
  rw [List.reverse_append, List.dropWhile_append_of_pos fun c hc => h c (List.mem_reverse.mp hc)]

/-- A text that opens with no blank has no margin in front. -/
theorem trimFront_eq_self {cs : List Char} (h : ∀ c ∈ cs.head?, isBlank c = false) :
    trimFront cs = cs := by
  cases cs with
  | nil => rfl
  | cons c cs => exact List.dropWhile_cons_of_neg (by simp [h c rfl])

/-- A text that ends in no blank has no margin at the end. -/
theorem trimBack_eq_self {cs : List Char} (h : ∀ c ∈ cs.getLast?, isBlank c = false) :
    trimBack cs = cs := by
  have hrev : trimFront cs.reverse = cs.reverse :=
    trimFront_eq_self fun c hc => h c (by rwa [List.head?_reverse] at hc)
  show (trimFront cs.reverse).reverse = cs
  rw [hrev, List.reverse_reverse]

theorem trimmed_eq_self {cs : List Char} (hfirst : ∀ c ∈ cs.head?, isBlank c = false)
    (hlast : ∀ c ∈ cs.getLast?, isBlank c = false) : trimmed cs = cs := by
  unfold trimmed
  rw [trimFront_eq_self hfirst, trimBack_eq_self hlast]

theorem exists_lead (cs : List Char) : ∃ lead, IsMargin lead ∧ cs = lead ++ trimFront cs :=
  ⟨cs.takeWhile isBlank, fun _ hc => List.mem_takeWhile_imp hc,
    (List.takeWhile_append_dropWhile).symm⟩

theorem exists_trail (cs : List Char) : ∃ trail, IsMargin trail ∧ cs = trimBack cs ++ trail := by
  obtain ⟨lead, hlead, hcs⟩ := exists_lead cs.reverse
  refine ⟨lead.reverse, fun c hc => hlead c (List.mem_reverse.mp hc), ?_⟩
  have := congrArg List.reverse hcs
  rwa [List.reverse_reverse, List.reverse_append] at this

/-- **A text is what is left of it between two margins.** -/
theorem exists_margins (cs : List Char) :
    ∃ lead trail, IsMargin lead ∧ IsMargin trail ∧ cs = lead ++ trimmed cs ++ trail := by
  obtain ⟨lead, hlead, hcs⟩ := exists_lead cs
  obtain ⟨trail, htrail, hfront⟩ := exists_trail (trimFront cs)
  refine ⟨lead, trail, hlead, htrail, ?_⟩
  rw [List.append_assoc, trimmed, ← hfront]
  exact hcs

/-- Margins make no difference to what is left without them. -/
theorem trimmed_append {lead trail : List Char} (hlead : IsMargin lead) (htrail : IsMargin trail)
    (cs : List Char) : trimmed (lead ++ cs ++ trail) = trimmed cs := by
  unfold trimmed
  rw [List.append_assoc, trimFront_append hlead]
  unfold trimFront
  rw [List.dropWhile_append]
  split
  · rename_i hnone
    rw [List.isEmpty_iff.mp hnone]
    exact congrArg trimBack (List.dropWhile_eq_nil_iff.mpr htrail)
  · exact trimBack_append htrail _

/-- Nothing is left of a text that is blank, and of no other. -/
theorem trimmed_eq_nil_iff {cs : List Char} : trimmed cs = [] ↔ IsMargin cs := by
  constructor
  · intro hnil
    obtain ⟨lead, trail, hlead, htrail, hcs⟩ := exists_margins cs
    rw [hnil, List.append_nil] at hcs
    rw [hcs]
    exact List.forall_mem_append.mpr ⟨hlead, htrail⟩
  · intro h
    have hnone : IsMargin [] := fun c hc => by cases hc
    have := trimmed_append h hnone []
    rwa [List.append_nil, List.append_nil] at this

theorem isEmpty_trim {s : String} (h : ∃ c ∈ s.toList, isBlank c = false) :
    (trim s).isEmpty = false := by
  obtain ⟨c, hc, hblank⟩ := h
  rw [← Bool.not_eq_true, String.isEmpty_iff, ← String.toList_inj, trim, String.toList_ofList]
  intro hnil
  rw [trimmed_eq_nil_iff.mp hnil c hc] at hblank
  cases hblank

/-- Where blanks stay blanks, what is left is found before or after a replacement. -/
theorem trimmed_map_trimmed {f : Char → Char} (hf : ∀ c, isBlank c = true → isBlank (f c) = true)
    (cs : List Char) : trimmed ((trimmed cs).map f) = trimmed (cs.map f) := by
  obtain ⟨lead, trail, hlead, htrail, hcs⟩ := exists_margins cs
  have hmargin {xs : List Char} (h : IsMargin xs) : IsMargin (xs.map f) := by
    intro c hc
    obtain ⟨b, hb, rfl⟩ := List.mem_map.mp hc
    exact hf b (h b hb)
  calc trimmed ((trimmed cs).map f)
      = trimmed (lead.map f ++ (trimmed cs).map f ++ trail.map f) :=
        (trimmed_append (hmargin hlead) (hmargin htrail) _).symm
    _ = trimmed ((lead ++ trimmed cs ++ trail).map f) := by rw [List.map_append, List.map_append]
    _ = trimmed (cs.map f) := by rw [← hcs]

/-! ### Stretches -/

/-- The characters for which `p` holds end where the rest begins. -/
theorem takeWhile_append_eq {p : Char → Bool} {cs rest : List Char} (h : ∀ c ∈ cs, p c = true)
    (hrest : rest.head?.all (!p ·) = true) :
    (cs ++ rest).takeWhile p = cs ∧ (cs ++ rest).dropWhile p = rest := by
  have hnone : rest.takeWhile p = [] ∧ rest.dropWhile p = rest := by
    cases rest with
    | nil => exact ⟨rfl, rfl⟩
    | cons c rest =>
      have hc : p c = false := by simpa using hrest
      exact ⟨List.takeWhile_cons_of_neg (by simp [hc]), List.dropWhile_cons_of_neg (by simp [hc])⟩
  rw [List.takeWhile_append_of_pos h, List.dropWhile_append_of_pos h, hnone.1, hnone.2]
  exact ⟨List.append_nil cs, rfl⟩

/-! ### The last separator -/

variable {a : Char}

theorem splitLast?_eq_none_iff {l : List Char} : splitLast? a l = none ↔ a ∉ l := by
  induction l with
  | nil => simp [splitLast?]
  | cons c l ih =>
    unfold splitLast?
    cases h : splitLast? a l with
    | none =>
      by_cases hc : c = a
      · simp [hc]
      · simp [hc, ih.mp h, Ne.symm hc]
    | some found =>
      have hm : a ∈ l := by
        by_cases hm : a ∈ l
        · exact hm
        · rw [ih.mpr hm] at h
          cases h
      simp [hm]

theorem splitLast?_append {before after : List Char} (h : a ∉ after) :
    splitLast? a (before ++ a :: after) = some (before, after) := by
  induction before with
  | nil => simp [splitLast?, splitLast?_eq_none_iff.mpr h]
  | cons c before ih => simp [splitLast?, ih]

theorem of_splitLast? {l before after : List Char} (h : splitLast? a l = some (before, after)) :
    l = before ++ a :: after ∧ a ∉ after := by
  induction l generalizing before with
  | nil => cases h
  | cons c l ih =>
    unfold splitLast? at h
    split at h
    · rename_i hl
      cases h
      obtain ⟨rfl, hafter⟩ := ih hl
      exact ⟨rfl, hafter⟩
    · rename_i hl
      split at h
      · rename_i hc
        cases h
        exact ⟨by rw [hc]; rfl, splitLast?_eq_none_iff.mp hl⟩
      · cases h

end GraphAnswers.Text
