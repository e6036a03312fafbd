import GraphAnswers.Proofs.Margins
import GraphAnswers.Proofs.Wording
/-!
# The lines of a text

A text that was put together from lines is cut into these lines again (`Text.linesOf_join`).  A line
keeps to itself if it has no end of line in it and no carriage return at its end (`Text.IsLine`):
whatever is put together from such lines in one line is one as well.
-/
namespace GraphAnswers.Text

/-- The pieces of a text between the ends of its lines. -/
def linesOf (s : String) : List String := (splitWhere (· == '\n') s.toList).map String.ofList

/-- **Whether a text is one line**, to which carriage returns at its end make no difference because
there are none. -/
structure IsLine (s : String) : Prop where
  one : '\n' ∉ s.toList
  ending : s.toList.getLast? ≠ some '\r'

instance (s : String) : Decidable (IsLine s) :=
  decidable_of_iff ('\n' ∉ s.toList ∧ s.toList.getLast? ≠ some '\r')
    ⟨fun h => ⟨h.1, h.2⟩, fun h => ⟨h.one, h.ending⟩⟩

variable {s t separator : String} {lines parts : List String}

theorem beq_newline_of_mem (h : '\n' ∉ s.toList) : ∀ c ∈ s.toList, (c == '\n') = false := by
  intro c hc
  rw [beq_eq_false_iff_ne]
  rintro rfl
  exact h hc

theorem linesOf_line (h : '\n' ∉ s.toList) : linesOf s = [s] := by
  unfold linesOf
  rw [splitWhere_of_none (beq_newline_of_mem h), List.map_singleton, String.ofList_toList]

theorem linesOf_append (h : '\n' ∉ s.toList) (t : String) :
    linesOf (s ++ "\n" ++ t) = s :: linesOf t := by
  have hsplit : (s ++ "\n" ++ t).toList = s.toList ++ '\n' :: t.toList := by simp
  unfold linesOf
  rw [hsplit, splitWhere_append (beq_newline_of_mem h) (by decide), List.map_cons,
    String.ofList_toList]

/-- **Lines that are put together are found again.** -/
theorem linesOf_join (hne : lines ≠ []) (h : ∀ l ∈ lines, '\n' ∉ l.toList) :
    linesOf (join "\n" lines) = lines := by
  induction lines with
  | nil => exact absurd rfl hne
  | cons l lines ih =>
    by_cases hlines : lines = []
    · subst hlines
      rw [join_singleton, linesOf_line (h l List.mem_cons_self)]
    · rw [join_cons "\n" l hlines, linesOf_append (h l List.mem_cons_self),
        ih hlines fun l' hl' => h l' (List.mem_cons_of_mem _ hl')]

theorem isLine_empty : IsLine "" := by decide

/-- In front of something, only an end of line matters. -/
theorem IsLine.prepend (hs : '\n' ∉ s.toList) (hne : t ≠ "") (ht : IsLine t) : IsLine (s ++ t) := by
  have hne' : t.toList ≠ [] := fun hnil => hne (String.toList_inj.mp hnil)
  refine ⟨?_, ?_⟩
  · rw [String.toList_append, List.mem_append]
    exact fun h => h.elim hs ht.one
  · rw [String.toList_append, List.getLast?_append_of_ne_nil _ hne']
    exact ht.ending

theorem IsLine.append (hs : IsLine s) (ht : IsLine t) : IsLine (s ++ t) := by
  by_cases hne : t = ""
  · subst hne
    rwa [String.append_empty]
  · exact ht.prepend hs.one hne

theorem IsLine.join (hseparator : IsLine separator) (h : ∀ part ∈ parts, IsLine part) :
    IsLine (Text.join separator parts) := by
  induction parts with
  | nil => exact isLine_empty
  | cons part parts ih =>
    have hpart := h part List.mem_cons_self
    by_cases hparts : parts = []
    · subst hparts
      rwa [join_singleton]
    · rw [join_cons separator part hparts]
      exact (hpart.append hseparator).append (ih fun p hp => h p (List.mem_cons_of_mem _ hp))

/-- What is put in place of characters is one character. -/
theorem notMem_replaceWhere {a new : Char} {p : Char → Bool} (h : a ∉ s.toList) (ha : a ≠ new) :
    a ∉ (replaceWhere p new s).toList := by
  unfold replaceWhere
  rw [String.toList_ofList]
  intro hmem
  obtain ⟨c, hc, heq⟩ := List.mem_map.mp hmem
  split at heq
  · exact ha heq.symm
  · exact h (heq ▸ hc)

/-- A text whose blank margins were dropped ends in no carriage return. -/
theorem isLine_trim (h : '\n' ∉ s.toList) : IsLine (trim s) := by
  obtain ⟨lead, trail, _, _, hs⟩ := exists_margins s.toList
  unfold trim
  refine ⟨?_, ?_⟩
  · rw [String.toList_ofList]
    intro hmem
    refine h ?_
    rw [hs]
    simp [hmem]
  · rw [String.toList_ofList]
    unfold trimmed trimBack dropEndWhile
    rw [List.getLast?_reverse]
    intro hlast
    have := List.head?_dropWhile_not isBlank (trimFront s.toList).reverse
    rw [hlast] at this
    exact absurd this (by decide)

end GraphAnswers.Text
