import GraphAnswers.Text.Numeral
import GraphAnswers.Text.Words
import Mathlib.Data.List.Basic
/-!
# Words joined and cut again

Words that are joined by single spaces are cut apart at the same places (`Text.words_unwords`), and
a count that is written in decimal digits is read back (`Text.numeral?_toString`).
-/
namespace GraphAnswers.Text

/-! ### Cutting -/

section Cutting

variable {α : Type} {p : α → Bool} {cs : List α}

theorem splitWhere_of_none (h : ∀ c ∈ cs, p c = false) : splitWhere p cs = [cs] := by
  induction cs with
  | nil => rfl
  | cons c cs ih =>
    unfold splitWhere
    rw [ih fun c hc => h c (List.mem_cons_of_mem _ hc), h c List.mem_cons_self]
    rfl

theorem splitWhere_ne_nil (cs : List α) : splitWhere p cs ≠ [] := by
  cases cs with
  | nil => exact List.cons_ne_nil _ _
  | cons c cs =>
    unfold splitWhere
    split
    · exact List.cons_ne_nil _ _
    · split <;> exact List.cons_ne_nil _ _

/-- Around a separator, a list is cut on either side on its own. -/
theorem splitWhere_separator {a : α} (ha : p a = true) (before after : List α) :
    splitWhere p (before ++ a :: after) = splitWhere p before ++ splitWhere p after := by
  induction before with
  | nil =>
    show splitWhere p (a :: after) = [] :: splitWhere p after
    rw [splitWhere, if_pos ha]
  | cons c before ih =>
    rw [List.cons_append, splitWhere, ih, splitWhere]
    by_cases hc : p c = true
    · rw [if_pos hc, if_pos hc]
      rfl
    · rw [if_neg hc, if_neg hc]
      cases hcut : splitWhere p before with
      | nil => exact absurd hcut (splitWhere_ne_nil before)
      | cons w ws => rfl

theorem splitWhere_append (h : ∀ c ∈ cs, p c = false) {a : α} (ha : p a = true) (rest : List α) :
    splitWhere p (cs ++ a :: rest) = cs :: splitWhere p rest := by
  rw [splitWhere_separator ha, splitWhere_of_none h, List.singleton_append]

/-- Where just the elements are replaced that were cut at, and others by none that is cut at, the pieces
are the same. -/
theorem splitWhere_map {q : α → Bool} {f : α → α}
    (h : ∀ c ∈ cs, p (f c) = q c ∧ (q c = false → f c = c)) :
    splitWhere p (cs.map f) = splitWhere q cs := by
  induction cs with
  | nil => rfl
  | cons c cs ih =>
    obtain ⟨⟨hcut, hkept⟩, hrest⟩ := List.forall_mem_cons.mp h
    rw [List.map_cons, splitWhere, splitWhere, ih hrest, hcut]
    by_cases hc : q c = true
    · rw [if_pos hc, if_pos hc]
    · rw [if_neg hc, if_neg hc, hkept (by simpa using hc)]

/-- A piece consists of elements that are not cut at. -/
theorem mem_of_mem_splitWhere {piece : List α} (h : piece ∈ splitWhere p cs) :
    ∀ c ∈ piece, c ∈ cs ∧ p c = false := by
  induction cs generalizing piece with
  | nil =>
    obtain rfl := List.mem_singleton.mp h
    exact fun c hc => by cases hc
  | cons c cs ih =>
    have hlater (old : List α) (hold : old ∈ splitWhere p cs) (d : α) (hd : d ∈ old) :
        d ∈ c :: cs ∧ p d = false :=
      ⟨List.mem_cons_of_mem c (ih hold d hd).1, (ih hold d hd).2⟩
    unfold splitWhere at h
    split at h
    · rcases List.mem_cons.mp h with rfl | h
      · exact fun d hd => by cases hd
      · exact hlater piece h
    · rename_i hc
      have hfirst : c ∈ c :: cs ∧ p c = false := ⟨List.mem_cons_self, by simpa using hc⟩
      split at h
      · obtain rfl := List.mem_singleton.mp h
        intro d hd
        obtain rfl := List.mem_singleton.mp hd
        exact hfirst
      · rename_i w ws hws
        rw [hws] at hlater
        rcases List.mem_cons.mp h with rfl | h
        · intro d hd
          rcases List.mem_cons.mp hd with rfl | hd
          · exact hfirst
          · exact hlater w List.mem_cons_self d hd
        · exact hlater piece (List.mem_cons_of_mem _ h)

/-- All pieces are empty exactly if every element is cut at. -/
theorem filter_splitWhere_eq_nil_iff :
    (splitWhere p cs).filter (!·.isEmpty) = [] ↔ ∀ c ∈ cs, p c = true := by
  induction cs with
  | nil => simp [splitWhere]
  | cons c cs ih =>
    rw [List.forall_mem_cons]
    by_cases hc : p c = true
    · rw [splitWhere, if_pos hc, List.filter_cons_of_neg (by simp), ih, and_iff_right hc]
    · rw [splitWhere, if_neg hc]
      refine iff_of_false ?_ fun h => hc h.1
      cases splitWhere p cs <;> simp

/-- The part after the last separator is one of the pieces. -/
theorem afterLast_mem (cs : List α) : afterLast p cs ∈ splitWhere p cs := by
  unfold afterLast
  rw [List.getLastD_eq_getLast?, List.getLast?_eq_some_getLast (splitWhere_ne_nil cs)]
  exact List.getLast_mem _

end Cutting

/-! ### Joining -/

variable {w : String} {ws : List String}

theorem join_singleton (separator w : String) : join separator [w] = w := by
  unfold join
  simp

theorem join_cons (separator w : String) (h : ws ≠ []) :
    join separator (w :: ws) = w ++ separator ++ join separator ws := by
  obtain ⟨w', ws, rfl⟩ := List.exists_cons_of_ne_nil h
  unfold join
  rw [← String.toList_inj]
  simp [List.intercalate_cons_cons]

theorem unwords_singleton (w : String) : unwords [w] = w := join_singleton " " w

theorem unwords_cons (w : String) (h : ws ≠ []) : unwords (w :: ws) = w ++ " " ++ unwords ws :=
  join_cons " " w h

theorem unwords_append {vs : List String} (hv : vs ≠ []) (hw : ws ≠ []) :
    unwords (vs ++ ws) = unwords vs ++ " " ++ unwords ws := by
  induction vs with
  | nil => exact absurd rfl hv
  | cons v vs ih =>
    rw [List.cons_append, unwords_cons v (by simp [hw])]
    cases vs with
    | nil => rw [unwords_singleton, List.nil_append]
    | cons v' vs =>
      rw [ih (List.cons_ne_nil _ _), unwords_cons v (List.cons_ne_nil _ _)]
      simp only [String.append_assoc]

theorem mem_unwords {c : Char} (h : c ∈ (unwords ws).toList) :
    c = ' ' ∨ ∃ w ∈ ws, c ∈ w.toList := by
  induction ws with
  | nil => cases h
  | cons w ws ih =>
    by_cases hws : ws = []
    · subst hws
      rw [unwords_singleton] at h
      exact .inr ⟨w, List.mem_cons_self, h⟩
    · rw [unwords_cons w hws, String.toList_append, String.toList_append, List.mem_append,
        List.mem_append] at h
      rcases h with (h | h) | h
      · exact .inr ⟨w, List.mem_cons_self, h⟩
      · exact .inl (List.mem_singleton.mp h)
      · refine (ih h).imp_right ?_
        rintro ⟨w', hw', hc⟩
        exact ⟨w', List.mem_cons_of_mem _ hw', hc⟩

/-- Joined words hold the characters of each. -/
theorem mem_unwords_of_mem {c : Char} (hw : w ∈ ws) (hc : c ∈ w.toList) :
    c ∈ (unwords ws).toList := by
  induction ws with
  | nil => cases hw
  | cons v ws ih =>
    by_cases hnil : ws = []
    · subst hnil
      rw [unwords_singleton, ← List.mem_singleton.mp hw]
      exact hc
    · rw [unwords_cons v hnil, String.toList_append, String.toList_append]
      rcases List.mem_cons.mp hw with rfl | hw
      · exact List.mem_append_left _ (List.mem_append_left _ hc)
      · exact List.mem_append_right _ (ih hw)

/-- The first two words may be joined beforehand. -/
theorem unwords_cons_cons (v w : String) (ws : List String) :
    unwords (v :: w :: ws) = unwords ((v ++ " " ++ w) :: ws) := by
  by_cases hnil : ws = []
  · subst hnil
    rw [unwords_cons v (by simp), unwords_singleton, unwords_singleton]
  · rw [unwords_cons v (by simp), unwords_cons w hnil, unwords_cons _ hnil]
    simp only [String.append_assoc]

/-! ### Words -/

theorem words_toList (s : String) : (words s).map String.toList = wordsOf s.toList := by
  simp [words, Function.comp_def]

/-- Whether a text is one word: it is not empty and has no blank character. -/
structure IsWord (w : String) : Prop where
  ne_nil : w.toList ≠ []
  solid : ∀ c ∈ w.toList, isBlank c = false

instance (w : String) : Decidable (IsWord w) :=
  decidable_of_iff (w.toList ≠ [] ∧ (w.toList.all fun c => !isBlank c) = true)
    ⟨fun h => ⟨h.1, by simpa using h.2⟩, fun h => ⟨h.ne_nil, by simpa using h.solid⟩⟩

theorem wordsOf_word (h : IsWord w) : wordsOf w.toList = [w.toList] := by
  unfold wordsOf
  rw [splitWhere_of_none h.solid]
  simp [h.ne_nil]

/-- **Words end at a blank.**  What stands before it and what stands after it have their words each on
their own. -/
theorem wordsOf_append_blank {b : Char} (hb : isBlank b = true) (before after : List Char) :
    wordsOf (before ++ b :: after) = wordsOf before ++ wordsOf after := by
  unfold wordsOf
  rw [splitWhere_separator hb, List.filter_append]

theorem words_word (h : IsWord w) : words w = [w] := by
  simp [words, wordsOf_word h]

theorem words_append_space (s t : String) : words (s ++ " " ++ t) = words s ++ words t := by
  have hsplit : (s ++ " " ++ t).toList = s.toList ++ ' ' :: t.toList := by simp
  unfold words
  rw [hsplit, wordsOf_append_blank (by decide), List.map_append]

/-- A word of a text is one. -/
theorem isWord_of_mem_words {s : String} (h : w ∈ words s) : IsWord w := by
  unfold words wordsOf at h
  obtain ⟨piece, hpiece, rfl⟩ := List.mem_map.mp h
  obtain ⟨hpiece, hne⟩ := List.mem_filter.mp hpiece
  constructor
  · rw [String.toList_ofList]
    simpa using hne
  · rw [String.toList_ofList]
    exact fun c hc => (mem_of_mem_splitWhere hpiece c hc).2

/-- Joined words are something, if there is one. -/
theorem unwords_eq_empty_iff {ws : List String} (h : ∀ w ∈ ws, IsWord w) :
    unwords ws = "" ↔ ws = [] := by
  constructor
  · intro hnone
    cases ws with
    | nil => rfl
    | cons w ws =>
      obtain ⟨c, hc⟩ := List.exists_mem_of_ne_nil _ (h w List.mem_cons_self).ne_nil
      have hmem : c ∈ (unwords (w :: ws)).toList := mem_unwords_of_mem List.mem_cons_self hc
      rw [hnone] at hmem
      cases hmem
  · rintro rfl
    rfl

/-- Texts that are joined have their words one text after another. -/
theorem words_unwords_eq_flatMap (texts : List String) :
    words (unwords texts) = texts.flatMap words := by
  induction texts with
  | nil => rfl
  | cons s texts ih =>
    by_cases hnil : texts = []
    · subst hnil
      simp [unwords_singleton]
    · rw [unwords_cons s hnil, words_append_space, ih, List.flatMap_cons]

/-- **Joined words are cut apart again.** -/
theorem words_unwords (h : ∀ w ∈ ws, IsWord w) : words (unwords ws) = ws :=
  calc words (unwords ws) = ws.flatMap words := words_unwords_eq_flatMap ws
    _ = ws.flatMap fun w => [w] := List.flatMap_congr fun w hw => words_word (h w hw)
    _ = ws := by simp

/-! ### Counts -/

theorem digitsFrom_eq {cs : List Char} (h : ∀ c ∈ cs, c.isDigit = true) (n : Nat) :
    digitsFrom n cs = some (Nat.ofDigitChars 10 cs n) := by
  induction cs generalizing n with
  | nil => rfl
  | cons c cs ih =>
    unfold digitsFrom
    rw [if_pos (h c List.mem_cons_self), ih fun c hc => h c (List.mem_cons_of_mem _ hc),
      Nat.ofDigitChars_cons, Nat.mul_comm n 10]

theorem isDigit_of_mem_toString {n : Nat} {c : Char} (h : c ∈ (toString n).toList) :
    c.isDigit = true := by
  rw [Nat.toString_eq_ofList_toDigits, String.toList_ofList] at h
  exact Nat.isDigit_of_mem_toDigits (by decide) (by decide) h

theorem digitsFrom_toString (n : Nat) : digitsFrom 0 (toString n).toList = some n := by
  rw [digitsFrom_eq fun c hc => isDigit_of_mem_toString hc, Nat.toString_eq_ofList_toDigits,
    String.toList_ofList, Nat.ofDigitChars_ten_toDigits]

theorem toString_toList_ne_nil (n : Nat) : (toString n).toList ≠ [] := by
  rw [Nat.toString_eq_ofList_toDigits, String.toList_ofList]
  exact Nat.toDigits_ne_nil

/-- **A count is read as it is written.** -/
theorem numeral?_toString {n bound : Nat} (h : n ≤ bound) :
    numeral? bound (toString n) = some n := by
  have hvalue := digitsFrom_toString n
  have hdigits (c : Char) (hc : c ∈ (toString n).toList) := isDigit_of_mem_toString hc
  unfold numeral?
  cases hcs : (toString n).toList with
  | nil => exact absurd hcs (toString_toList_ne_nil n)
  | cons c cs =>
    rw [hcs] at hvalue hdigits
    split
    · -- no digit is a plus sign
      rename_i rest heq
      cases heq
      exact absurd (hdigits '+' List.mem_cons_self) (by decide)
    · show (digitsFrom 0 (c :: cs)).filter _ = _
      rw [hvalue]
      simp [h]

end GraphAnswers.Text
