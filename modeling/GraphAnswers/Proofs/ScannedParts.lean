import GraphAnswers.Proofs.BareWords
import GraphAnswers.Proofs.TypeNames
import GraphAnswers.Proofs.UntaggedTexts
/-!
# Parts of a scanned triple

Parts of a line that are empty are left out before anything is made of them, and taking a dot off or
joining parts leaves something of them.  The name of a type is reduced only after that: of a name
without a word in it nothing is left, and the triple is given all the same
(`Dump.scanned_parts_shown`).
-/
namespace GraphAnswers

open Text

namespace Dump

/-! ### Parts -/

variable {cap : Nat} {line : String} {t : Triple} {parts : List (List Char)}

theorem ne_nil_of_mem_partsOf {cs part : List Char} (h : part ∈ partsOf cs) : part ≠ [] := by
  simpa using (List.mem_filter.mp h).2

theorem dropStop_ne_nil {part : List Char} (h : part ≠ []) : dropStop part ≠ [] := by
  by_cases hends : EndsInStop part
  · obtain ⟨front, hne, hlast, rfl⟩ := hends
    rwa [dropStop_concat hne hlast]
  · rwa [dropStop_eq_self_iff.mpr hends]

theorem ne_nil_of_mem_dropFinalStop (h : ∀ part ∈ parts, part ≠ []) :
    ∀ part ∈ dropFinalStop parts, part ≠ [] := by
  fun_induction dropFinalStop parts with
  | case1 => exact h
  | case2 last => simpa using dropStop_ne_nil (h last List.mem_cons_self)
  | case3 part rest _ ih =>
    rw [List.forall_mem_cons] at h ⊢
    exact ⟨h.1, ih h.2⟩

theorem dropFinalStop_ne_nil (h : parts ≠ []) : dropFinalStop parts ≠ [] := by
  fun_cases dropFinalStop parts with
  | case1 => exact absurd rfl h
  | case2 last => exact List.cons_ne_nil _ _
  | case3 part rest _ => exact List.cons_ne_nil _ _

/-- What has been joined is kept. -/
theorem joinUpTo_ne_nil {object : List Char} (h : object ≠ []) : joinUpTo cap object parts ≠ [] := by
  induction parts generalizing object with
  | nil => exact h
  | cons part rest ih =>
    unfold joinUpTo
    split
    · exact h
    · exact ih (by simp [h])

/-! ### Lines -/

/-- The parts of the object of a line. -/
def objectParts (line : String) : List (List Char) :=
  dropFinalStop ((partsOf (trimmed line.toList)).drop 2)

/-- The object of a line, before it is reduced if it is the name of a type. -/
def objectText (cap : Nat) (line : String) : List Char := joinUpTo cap [] (objectParts line)

theorem ne_nil_of_mem_objectParts {part : List Char} (h : part ∈ objectParts line) : part ≠ [] :=
  ne_nil_of_mem_dropFinalStop (fun _ hp => ne_nil_of_mem_partsOf (List.mem_of_mem_drop hp)) part h

theorem objectParts_ne_nil (h : scan cap line = some t) : objectParts line ≠ [] := by
  obtain ⟨_, _, _, _, _, hparts, _⟩ := scan_eq_some_iff.mp h
  rw [objectParts, hparts]
  exact dropFinalStop_ne_nil (List.cons_ne_nil _ _)

theorem objectText_eq {subject predicate : List Char}
    (h : partsOf (trimmed line.toList) = subject :: predicate :: parts) :
    objectText cap line = joinUpTo cap [] (dropFinalStop parts) := by
  rw [objectText, objectParts, h]
  rfl

/-- The first part of an object is never cut off. -/
theorem objectText_ne_nil (hcap : 1 ≤ cap) (h : objectParts line ≠ []) : objectText cap line ≠ [] := by
  obtain ⟨part, rest, hparts⟩ := List.exists_cons_of_ne_nil h
  have hpart : part ≠ [] := ne_nil_of_mem_objectParts (hparts ▸ List.mem_cons_self)
  have hnone : ¬cap ≤ byteLength [] := Nat.not_le.mpr hcap
  rw [objectText, hparts, joinUpTo, if_neg hnone, if_pos List.isEmpty_nil]
  exact joinUpTo_ne_nil hpart

/-- **Which parts of a triple are never empty.**  The subject and the predicate are something, and so
is the object, unless it is the name of a type and there is no word in it. -/
theorem scanned_parts_shown (hcap : 1 ≤ cap) (h : scan cap line = some t) :
    t.subject ≠ "" ∧ t.predicate ≠ "" ∧
      (t.object = "" ↔
        t.predicate = Field.type ∧ ∀ c ∈ objectText cap line, separatesWords c = true) := by
  have htext : String.ofList (objectText cap line) ≠ "" := by
    simpa using objectText_ne_nil hcap (objectParts_ne_nil h)
  obtain ⟨_, subject, predicate, part, rest, hparts, rfl⟩ := scan_eq_some_iff.mp h
  have hne {p : List Char} (hp : p ∈ subject :: predicate :: part :: rest) : String.ofList p ≠ "" := by
    rw [← hparts] at hp
    simpa using ne_nil_of_mem_partsOf hp
  refine ⟨hne (by simp), hne (by simp), ?_⟩
  rw [object_tripleOf, ← objectText_eq hparts]
  show _ ↔ String.ofList predicate = Field.type ∧ _
  by_cases htype : String.ofList predicate = Field.type
  · rw [if_pos htype, reduceType_eq_empty_iff, String.toList_ofList, and_iff_right htype]
  · rw [if_neg htype]
    exact iff_of_false htext fun hsep => htype hsep.1

/-- The first part of this name has no word in it.  With a cap of three bytes nothing else is kept. -/
theorem scanned_parts_film :
    scan 4 "<x#m.1> a/type \" ._. \" <x/> film.film ." = some ⟨"m.1", "type", "film film"⟩ ∧
      ¬∀ c ∈ objectText 4 "<x#m.1> a/type \" ._. \" <x/> film.film .", separatesWords c = true := by
  have hscan : scan 4 "<x#m.1> a/type \" ._. \" <x/> film.film ." =
      some ⟨"m.1", "type", "film film"⟩ := by decide +kernel
  obtain ⟨_, _, hobject⟩ := scanned_parts_shown (by decide) hscan
  exact ⟨hscan, fun hnone => absurd (hobject.mpr ⟨rfl, hnone⟩) (by decide)⟩

/-- **Of the name of a type without a word nothing is left**, and the line gives a triple. -/
theorem scan_nameless_type : scan 512 "m.1 type _" = some ⟨"m.1", "type", ""⟩ := by
  decide +kernel

end Dump

end GraphAnswers
