import GraphAnswers.Proofs.Margins
import GraphAnswers.Settings
/-!
# The labels of an installation's own language

A label is marked with the tag of a language, and read back by what follows its last `@`.  So a
language whose code has an `@` in it reads none of its own labels, and every other language reads all
of them (`Language.display_mark`).

The settings are refused if nothing but `@` is given for the language.  But blanks around it do not
count in the tag, and only the first `@` is taken for that of the tag.  So the settings may have a
language without a code, which they were to be refused for, or one with an `@` in its code
(`Settings.own_labels_read`, `Settings.language_slips_through`).
-/
namespace GraphAnswers

open Text

namespace Language

/-- What follows a text in a marked label. -/
theorem toList_mark (l : Language) (text : String) :
    (l.mark text).toList = (text.toList ++ [' ']) ++ '@' :: l.code.toList := by
  simp [mark, tag]

/-- The blank in front of the tag is not shown. -/
theorem trim_replaceWhere_gap (text : List Char) :
    trim (replaceWhere (· == '-') ' ' (String.ofList (text ++ [' ']))) =
      trim (replaceWhere (· == '-') ' ' (String.ofList text)) := by
  have hnone : IsMargin [] := by decide
  have hgap : IsMargin [' '] := by decide
  unfold trim replaceWhere
  simp only [String.toList_ofList, List.map_append]
  exact congrArg String.ofList (trimmed_append hnone hgap _)

/-- **How a language reads the labels that it has marked.** -/
theorem display_mark (l : Language) (text : String) : l.display (l.mark text) =
    .ok (if '@' ∈ l.code.toList then none
      else some (trim (replaceWhere (· == '-') ' ' text))) := by
  unfold display
  rw [toList_mark]
  split_ifs with hat
  · -- the tag that is read begins at a later `@`
    cases hsplit : splitLast? '@' ((text.toList ++ [' ']) ++ '@' :: l.code.toList) with
    | none =>
      refine absurd ?_ (splitLast?_eq_none_iff.mp hsplit)
      exact List.mem_append_right _ List.mem_cons_self
    | some parts =>
      obtain ⟨before, after⟩ := parts
      have hne : after ≠ l.code.toList := by
        rintro rfl
        exact (of_splitLast? hsplit).2 hat
      exact if_neg hne
  · rw [splitLast?_append hat]
    dsimp only
    rw [if_pos rfl, trim_replaceWhere_gap, String.ofList_toList]

/-- Which texts name a language without a code. -/
theorem code_ofText_eq_empty_iff (s : String) :
    (ofText s).code = "" ↔ trim s = "" ∨ trim s = "@" := by
  have hempty (cs : List Char) : String.ofList cs = "" ↔ cs = [] := by
    rw [← String.toList_inj, String.toList_ofList]
    rfl
  have hat (cs : List Char) : String.ofList cs = "@" ↔ cs = ['@'] := by
    rw [← String.toList_inj, String.toList_ofList]
    rfl
  unfold ofText trim
  rw [hempty, hat]
  split
  · rename_i code hcode
    rw [hempty, hcode]
    simp
  · rename_i hcode
    rw [hempty]
    refine ⟨.inl, fun h => h.resolve_right fun hone => hcode [] hone⟩

end Language

namespace Settings

variable {files : FileTree} {path : String} {s : Settings}

/-- Settings that are accepted name more for their language than the mark of a tag. -/
theorem not_all_at_of_ofFile (h : ofFile files path = .ok s) :
    s.language.toList.all (· == '@') = false := by
  unfold ofFile at h
  split at h
  · cases h
  unfold ofSource at h
  split at h
  · cases h
  split at h
  · cases h
  · rename_i hnone
    cases h
    by_contra hall
    unfold refusal? at hnone
    rw [if_pos (by simpa using hall)] at hnone
    cases hnone

/-- **What the settings' own language reads.**  Where settings are accepted, the language has a code
unless there is nothing but a blank margin around at most one `@`; and it reads every label that is
marked with its tag, with spaces for hyphens and without margins, unless its code has an `@`, in
which case it reads none. -/
theorem own_labels_read (h : ofFile files path = .ok s) :
    (s.labelLanguage.code = "" ↔
      (trim s.language = "" ∨ trim s.language = "@") ∧ trim s.language ≠ s.language) ∧
    ∀ text, s.labelLanguage.display (s.labelLanguage.mark text) =
      .ok (if '@' ∈ s.labelLanguage.code.toList then none
        else some (trim (replaceWhere (· == '-') ' ' text))) := by
  refine ⟨?_, s.labelLanguage.display_mark⟩
  unfold labelLanguage
  rw [Language.code_ofText_eq_empty_iff]
  refine ⟨fun hnone => ⟨hnone, fun hsame => ?_⟩, And.left⟩
  have hall := not_all_at_of_ofFile h
  rw [hsame] at hnone
  rcases hnone with hnone | hnone <;> rw [hnone] at hall <;> exact absurd hall (by decide)

/-! ### Settings with a language -/

/-- An installation with a language in its settings. -/
def withLanguage (language : String) : FileTree :=
  FileTree.empty.set ["config.toml"]
    (.file (.octets (Text.octets ("factqa = ['.', 'f', '" ++ language ++ "']"))))

/-- The settings of that installation. -/
def ofLanguage (language : String) : Settings := { indexRoot := ".", defaultIndex := "f", language }

theorem own_labels_read_italian :
    ofFile (withLanguage " @it ") "config.toml" = .ok (ofLanguage " @it ") ∧
    (ofLanguage " @it ").labelLanguage.code ≠ "" ∧
    (ofLanguage " @it ").labelLanguage.display
      ((ofLanguage " @it ").labelLanguage.mark "Lo-squalo @en") = .ok (some "Lo squalo @en") := by
  have haccepted : ofFile (withLanguage " @it ") "config.toml" = .ok (ofLanguage " @it ") := by
    decide +kernel
  obtain ⟨hcode, hread⟩ := own_labels_read haccepted
  refine ⟨haccepted, fun hnone => ?_, ?_⟩
  · exact absurd (hcode.mp hnone).1 (by decide)
  · rw [hread]
    decide

/-- **Languages that slip through**: for a blank there is no code, and for one with an `@` inside
none of its labels is read. -/
theorem language_slips_through :
    ofFile (withLanguage " ") "config.toml" = .ok (ofLanguage " ") ∧
    (ofLanguage " ").labelLanguage.code = "" ∧
    ofFile (withLanguage "en@us") "config.toml" = .ok (ofLanguage "en@us") ∧
    (ofLanguage "en@us").labelLanguage.display
      ((ofLanguage "en@us").labelLanguage.mark "Jaws") = .ok none := by
  refine ⟨by decide +kernel, by decide, by decide +kernel, by decide⟩

end Settings

end GraphAnswers
