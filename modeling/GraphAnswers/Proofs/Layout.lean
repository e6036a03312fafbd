import GraphAnswers.Proofs.Margins
import GraphAnswers.Proofs.Wording
import Mathlib.Data.List.DropRight
/-!
# Words in a layout

How a text is laid out makes no difference to its words: margins hold none
(`Text.words_trim`), and lines have theirs one line after another (`Text.words_lines`).  A character
that is not blank goes on with the last word, unless there is a blank in front of it
(`Text.wordsOf_concat`).
-/
namespace GraphAnswers.Text

variable {cs : List Char}

/-! ### Margins -/

theorem wordsOf_cons_blank {b : Char} (hb : isBlank b = true) (cs : List Char) :
    wordsOf (b :: cs) = wordsOf cs :=
  wordsOf_append_blank hb [] cs

theorem wordsOf_margin_append {lead : List Char} (h : IsMargin lead) (cs : List Char) :
    wordsOf (lead ++ cs) = wordsOf cs := by
  induction lead with
  | nil => rfl
  | cons b lead ih =>
    rw [List.cons_append, wordsOf_cons_blank (h b List.mem_cons_self)]
    exact ih fun c hc => h c (List.mem_cons_of_mem b hc)

theorem wordsOf_append_margin {trail : List Char} (h : IsMargin trail) (cs : List Char) :
    wordsOf (cs ++ trail) = wordsOf cs := by
  rcases trail with _ | ⟨b, trail⟩
  · rw [List.append_nil]
  · have htrail : wordsOf (trail ++ []) = wordsOf [] :=
      wordsOf_margin_append (fun c hc => h c (List.mem_cons_of_mem b hc)) []
    rw [List.append_nil] at htrail
    rw [wordsOf_append_blank (h b List.mem_cons_self), htrail]
    exact List.append_nil _

theorem wordsOf_trimmed (cs : List Char) : wordsOf (trimmed cs) = wordsOf cs := by
  obtain ⟨lead, trail, hlead, htrail, hcs⟩ := exists_margins cs
  calc wordsOf (trimmed cs) = wordsOf (lead ++ trimmed cs) := (wordsOf_margin_append hlead _).symm
    _ = wordsOf (lead ++ trimmed cs ++ trail) := (wordsOf_append_margin htrail _).symm
    _ = wordsOf cs := by rw [← hcs]

theorem words_trim (s : String) : words (trim s) = words s := by
  unfold words trim
  rw [String.toList_ofList, wordsOf_trimmed]

/-- **Lines have their words one line after another**, whatever is blank around them. -/
theorem words_lines (lines : List String) :
    words (String.join (lines.map fun l => trim l ++ "\n")) = lines.flatMap words := by
  induction lines with
  | nil => rfl
  | cons l lines ih =>
    have hsplit : (String.join ((l :: lines).map fun l => trim l ++ "\n")).toList =
        (trim l).toList ++ '\n' :: (String.join (lines.map fun l => trim l ++ "\n")).toList := by
      simp
    have hfirst : (wordsOf (trim l).toList).map String.ofList = words l := words_trim l
    rw [List.flatMap_cons, ← ih]
    unfold words
    rw [hsplit, wordsOf_append_blank (by decide), List.map_append, hfirst]
    rfl

/-! ### The last word -/

theorem splitWhere_concat {α : Type} {p : α → Bool} {a : α} (ha : p a = false) (as : List α) :
    ∃ pieces last, splitWhere p as = pieces ++ [last] ∧
      splitWhere p (as ++ [a]) = pieces ++ [last ++ [a]] := by
  induction as with
  | nil => exact ⟨[], [], rfl, splitWhere_of_none (by simpa using ha)⟩
  | cons b as ih =>
    obtain ⟨pieces, last, hcut, hlonger⟩ := ih
    by_cases hb : p b = true
    · refine ⟨[] :: pieces, last, ?_, ?_⟩
      · rw [splitWhere, if_pos hb, hcut]
        rfl
      · rw [List.cons_append, splitWhere, if_pos hb, hlonger]
        rfl
    · rcases pieces with _ | ⟨piece, pieces⟩
      · refine ⟨[], b :: last, ?_, ?_⟩
        · rw [splitWhere, if_neg hb, hcut]
          rfl
        · rw [List.cons_append, splitWhere, if_neg hb, hlonger]
          rfl
      · refine ⟨(b :: piece) :: pieces, last, ?_, ?_⟩
        · rw [splitWhere, if_neg hb, hcut]
          rfl
        · rw [List.cons_append, splitWhere, if_neg hb, hlonger]
          rfl

/-- **A character that is not blank belongs to the last word**, or opens one.  Where it opens one,
`last` is empty and no word. -/
theorem wordsOf_concat {c : Char} (hc : isBlank c = false) (cs : List Char) :
    ∃ before last, wordsOf cs = before ++ [last].filter (!·.isEmpty) ∧
      wordsOf (cs ++ [c]) = before ++ [last ++ [c]] := by
  obtain ⟨pieces, last, hcut, hlonger⟩ := splitWhere_concat hc cs
  refine ⟨pieces.filter (!·.isEmpty), last, ?_, ?_⟩
  · unfold wordsOf
    rw [hcut, List.filter_append]
  · unfold wordsOf
    rw [hlonger, List.filter_append]
    simp

/-- A text that opens with no blank opens with a word. -/
theorem wordsOf_cons {c : Char} (hc : isBlank c = false) (cs : List Char) :
    wordsOf (c :: cs) =
      (c :: cs.takeWhile (!isBlank ·)) :: wordsOf (cs.dropWhile (!isBlank ·)) := by
  have hword : wordsOf (c :: cs.takeWhile (!isBlank ·)) = [c :: cs.takeWhile (!isBlank ·)] := by
    have hsolid : ∀ d ∈ c :: cs.takeWhile (!isBlank ·), isBlank d = false := by
      intro d hd
      rcases List.mem_cons.mp hd with rfl | hd
      · exact hc
      · simpa using List.mem_takeWhile_imp hd
    unfold wordsOf
    rw [splitWhere_of_none hsolid]
    rfl
  have hsplit : c :: cs = c :: cs.takeWhile (!isBlank ·) ++ cs.dropWhile (!isBlank ·) := by
    rw [List.cons_append, List.takeWhile_append_dropWhile]
  cases hrest : cs.dropWhile (!isBlank ·) with
  | nil =>
    rw [hrest, List.append_nil] at hsplit
    rw [hsplit, hword]
    rfl
  | cons b rest =>
    have hb : isBlank b = true := by
      have := List.head?_dropWhile_not (!isBlank ·) cs
      rw [hrest] at this
      simpa using this
    rw [hsplit, hrest, wordsOf_append_blank hb, hword, wordsOf_cons_blank hb]
    rfl

end GraphAnswers.Text
