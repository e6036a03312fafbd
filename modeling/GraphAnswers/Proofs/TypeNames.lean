import GraphAnswers.Dump.Scan
import GraphAnswers.Proofs.Wording
import Mathlib.Data.List.DropRight
/-!
# Names of types

Dots, underscores and blanks all separate the words of the name of a type, and the last two of these
words are what is left of it when it is reduced (`Dump.reduceType_eq`).  Nothing is left of a name
without a word (`Dump.reduceType_eq_empty_iff`).  It makes no difference with what the words are
separated, how often the name is reduced, and what stands in front of two words; and names with other
last words never come to the same (`Dump.reduceType_eq_iff`).
-/
namespace GraphAnswers

open Text

namespace Dump

variable {name w : String} {ws : List String} {c : Char}

/-! ### Words of names -/

/-- Whether a character stands between the words of the name of a type. -/
def separatesWords (c : Char) : Bool := c == '.' || c == '_' || isBlank c

/-- Whether a text is a word of the name of a type: it is not empty, and nothing in it separates
words. -/
structure IsNameWord (w : String) : Prop where
  ne_nil : w.toList ≠ []
  solid : ∀ c ∈ w.toList, separatesWords c = false

theorem IsNameWord.isWord (h : IsNameWord w) : IsWord w := by
  refine ⟨h.ne_nil, fun c hc => ?_⟩
  have hnone := h.solid c hc
  unfold separatesWords at hnone
  exact (Bool.or_eq_false_iff.mp hnone).2

/-- The words of the name of a type. -/
def nameWords (name : String) : List String :=
  ((splitWhere separatesWords name.toList).filter (!·.isEmpty)).map String.ofList

/-- The last two words of the name of a type, or all that it has. -/
def lastWords (name : String) : List String := (nameWords name).rtake 2

theorem isNameWord_of_mem_nameWords (h : w ∈ nameWords name) : IsNameWord w := by
  unfold nameWords at h
  obtain ⟨piece, hpiece, rfl⟩ := List.mem_map.mp h
  obtain ⟨hpiece, hne⟩ := List.mem_filter.mp hpiece
  constructor
  · rw [String.toList_ofList]
    simpa using hne
  · rw [String.toList_ofList]
    exact fun c hc => (mem_of_mem_splitWhere hpiece c hc).2

theorem isNameWord_of_mem_lastWords (h : w ∈ lastWords name) : IsNameWord w :=
  isNameWord_of_mem_nameWords (List.mem_of_mem_drop h)

theorem nameWords_eq_nil_iff : nameWords name = [] ↔ ∀ c ∈ name.toList, separatesWords c = true := by
  rw [nameWords, List.map_eq_nil_iff, filter_splitWhere_eq_nil_iff]

theorem lastWords_eq_nil_iff : lastWords name = [] ↔ nameWords name = [] := by
  rw [lastWords, List.rtake, List.drop_eq_nil_iff, ← List.length_eq_zero_iff]
  omega

theorem length_lastWords_le (name : String) : (lastWords name).length ≤ 2 := by
  unfold lastWords List.rtake
  rw [List.length_drop]
  omega

/-- **The words of a name** are those of a text with blanks for its dots and underscores. -/
theorem words_replaceWhere (name : String) :
    words (replaceWhere (fun c => c == '.' || c == '_') ' ' name) = nameWords name := by
  unfold words wordsOf replaceWhere nameWords
  rw [String.toList_ofList, splitWhere_map fun c _ => ?_]
  unfold separatesWords
  by_cases hc : (c == '.' || c == '_') = true
  · rw [if_pos hc, hc, Bool.true_or]
    exact ⟨by decide, fun h => by cases h⟩
  · rw [if_neg hc, Bool.eq_false_iff.mpr hc]
    exact ⟨rfl, fun _ => rfl⟩

/-- **Words end at whatever separates them.** -/
theorem nameWords_append (hc : separatesWords c = true) (before name : String) :
    nameWords (before ++ String.singleton c ++ name) = nameWords before ++ nameWords name := by
  have hsplit : (before ++ String.singleton c ++ name).toList = before.toList ++ c :: name.toList := by
    simp
  unfold nameWords
  rw [hsplit, splitWhere_separator hc, List.filter_append, List.map_append]

theorem nameWords_word (h : IsNameWord w) : nameWords w = [w] := by
  unfold nameWords
  rw [splitWhere_of_none h.solid]
  simp [h.ne_nil]

/-- Joined words are cut apart again, whatever separates them. -/
theorem nameWords_join (hc : separatesWords c = true) (hws : ∀ w ∈ ws, IsNameWord w) :
    nameWords (join (String.singleton c) ws) = ws := by
  induction ws with
  | nil => rfl
  | cons w ws ih =>
    obtain ⟨hw, hrest⟩ := List.forall_mem_cons.mp hws
    by_cases hnil : ws = []
    · subst hnil
      rw [join_singleton, nameWords_word hw]
    · rw [join_cons _ _ hnil, nameWords_append hc, nameWords_word hw, ih hrest, List.singleton_append]

/-- What stands in front of two words does not count. -/
theorem lastWords_append (hname : 2 ≤ (nameWords name).length) (hc : separatesWords c = true)
    (before : String) : lastWords (before ++ String.singleton c ++ name) = lastWords name := by
  unfold lastWords List.rtake
  rw [nameWords_append hc, List.length_append, Nat.add_sub_assoc hname, List.drop_append]
  simp

/-- A name may be spelled with anything that separates words. -/
theorem lastWords_join (hc : separatesWords c = true) (name : String) :
    lastWords (join (String.singleton c) (nameWords name)) = lastWords name := by
  rw [lastWords, nameWords_join hc fun w hw => isNameWord_of_mem_nameWords hw]
  rfl

/-! ### Reduced names -/

/-- **What is left of the name of a type** are its last two words. -/
theorem reduceType_eq (name : String) : reduceType name = unwords (lastWords name) := by
  unfold reduceType
  dsimp only
  rw [words_replaceWhere]
  rfl

/-- **What is left of the name of a type is nothing** if there is no word in it, and only then. -/
theorem reduceType_eq_empty_iff :
    reduceType name = "" ↔ ∀ c ∈ name.toList, separatesWords c = true := by
  have hwords : ∀ w ∈ lastWords name, IsWord w := fun w hw => (isNameWord_of_mem_lastWords hw).isWord
  rw [reduceType_eq, unwords_eq_empty_iff hwords, lastWords_eq_nil_iff, nameWords_eq_nil_iff]

theorem nameWords_reduceType (name : String) : nameWords (reduceType name) = lastWords name := by
  rw [reduceType_eq]
  exact nameWords_join (c := ' ') (by decide) fun w hw => isNameWord_of_mem_lastWords hw

theorem lastWords_reduceType (name : String) : lastWords (reduceType name) = lastWords name := by
  rw [lastWords, nameWords_reduceType, List.rtake, Nat.sub_eq_zero_of_le (length_lastWords_le name),
    List.drop_zero]

/-- **Two names are reduced to one** exactly if they have the same last words. -/
theorem reduceType_eq_iff {name other : String} :
    reduceType name = reduceType other ↔ lastWords name = lastWords other := by
  constructor
  · intro h
    rw [← lastWords_reduceType name, h, lastWords_reduceType]
  · intro h
    rw [reduceType_eq, h, ← reduceType_eq]

theorem reduceType_reduceType (name : String) : reduceType (reduceType name) = reduceType name :=
  reduceType_eq_iff.mpr (lastWords_reduceType name)

end Dump

end GraphAnswers
