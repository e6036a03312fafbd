import GraphAnswers.Index.Memory
import GraphAnswers.Proofs.Outcomes
/-!
# What look-ups in a set of triples give

Each look-up is described by the triples alone: what it gives, when it finds nothing, and when an
identifier makes it fail.
-/
namespace GraphAnswers

open Std

theorem SortedSet.isEmpty_eq_false_iff {α : Type} [Ord α] {s : SortedSet α} :
    s.isEmpty = false ↔ ∃ a, a ∈ s := by
  rw [← Bool.not_eq_true, SortedSet.isEmpty_iff]
  simp

/-- The members of any of a number of sets. -/
theorem SortedSet.mem_foldl_union {α β : Type} [Ord β] [TransOrd β] [LawfulEqOrd β]
    {f : α → SortedSet β} {l : List α} {s : SortedSet β} {b : β} :
    b ∈ l.foldl (fun s a => s.union (f a)) s ↔ b ∈ s ∨ ∃ a ∈ l, b ∈ f a := by
  induction l generalizing s with
  | nil => simp
  | cons a l ih =>
    rw [List.foldl_cons, ih, SortedSet.mem_union]
    simp [or_assoc]

/-! ### Elements from identifiers -/

namespace Element

theorem ofId_of_admits {kind : ElementKind} {id : String} (h : kind.admits id = true) :
    ofId kind id = .ok ⟨kind, id, h⟩ := dif_pos h

/-- If the kind admits every identifier, there is an element for each. -/
theorem ofIds_ok {kind : ElementKind} {ids : SortedSet String}
    (h : ∀ id ∈ ids, kind.admits id = true) :
    ∃ elements, ofIds kind ids = .ok elements ∧
      ∀ e : Element, e ∈ elements ↔ e.kind = kind ∧ e.id ∈ ids := by
  have hall : ∀ l : List String, (∀ id ∈ l, kind.admits id = true) →
      ∃ found, l.mapM (ofId kind) = .ok found ∧
        ∀ e : Element, e ∈ found ↔ e.kind = kind ∧ e.id ∈ l := by
    intro l hl
    induction l with
    | nil => exact ⟨[], rfl, fun e => by simp⟩
    | cons id l ih =>
      obtain ⟨found, hfound, hmem⟩ := ih fun id hid => hl id (List.mem_cons_of_mem _ hid)
      have hid := ofId_of_admits (hl id List.mem_cons_self)
      refine ⟨⟨kind, id, hl id List.mem_cons_self⟩ :: found, ?_, fun e => ?_⟩
      · rw [List.mapM_cons, hid, hfound]
        rfl
      · rw [List.mem_cons, List.mem_cons, hmem]
        constructor
        · rintro (rfl | ⟨hk, hm⟩)
          · exact ⟨rfl, .inl rfl⟩
          · exact ⟨hk, .inr hm⟩
        · rintro ⟨hk, hi | hm⟩
          · exact .inl (eq_of hk hi)
          · exact .inr ⟨hk, hm⟩
  obtain ⟨found, hfound, hmem⟩ := hall ids.toList h
  refine ⟨.ofList found, ?_, fun e => by rw [SortedSet.mem_ofList, hmem]; rfl⟩
  unfold ofIds
  rw [hfound]
  rfl

/-- If the kind rejects one identifier, there is no element for any. -/
theorem ofIds_error {kind : ElementKind} {ids : SortedSet String} {id : String} (hid : id ∈ ids)
    (h : kind.admits id = false) :
    ∃ detail, ofIds kind ids = .error (.invalidIdentifier detail) := by
  have hsome : ∀ l : List String, id ∈ l →
      ∃ detail, l.mapM (ofId kind) = .error (.invalidIdentifier detail) := by
    intro l hl
    induction l with
    | nil => cases hl
    | cons other l ih =>
      rw [List.mapM_cons]
      by_cases hother : kind.admits other = true
      · rw [ofId_of_admits hother]
        have hne : id ≠ other := by
          rintro rfl
          rw [h] at hother
          cases hother
        obtain ⟨detail, hdetail⟩ := ih ((List.mem_cons.mp hl).resolve_left hne)
        exact ⟨detail, by rw [hdetail]; rfl⟩
      · exact ⟨_, by rw [ofId, dif_neg hother]; rfl⟩
  obtain ⟨detail, hdetail⟩ := hsome ids.toList hid
  refine ⟨detail, ?_⟩
  unfold ofIds
  rw [hdetail]
  rfl

/-- Elements were made of identifiers all of which the kind admits. -/
theorem admits_of_ofIds {kind : ElementKind} {ids : SortedSet String}
    {elements : SortedSet Element} (h : ofIds kind ids = .ok elements) :
    ∀ id ∈ ids, kind.admits id = true := by
  intro id hid
  cases hadmits : kind.admits id with
  | true => rfl
  | false =>
    obtain ⟨detail, hdetail⟩ := ofIds_error hid hadmits
    cases h.symm.trans hdetail

theorem ofIds_eq_ok {kind : ElementKind} {ids : SortedSet String}
    {elements : SortedSet Element} (h : ofIds kind ids = .ok elements) :
    ∀ e : Element, e ∈ elements ↔ e.kind = kind ∧ e.id ∈ ids := by
  obtain ⟨elements', helements, hmem⟩ := ofIds_ok (admits_of_ofIds h)
  cases h.symm.trans helements
  exact hmem

/-- Where there is an identifier, there is an element. -/
theorem exists_of_ofIds {kind : ElementKind} {ids : SortedSet String}
    {elements : SortedSet Element} (h : ofIds kind ids = .ok elements) {id : String}
    (hid : id ∈ ids) : ∃ e, e ∈ elements :=
  ⟨⟨kind, id, admits_of_ofIds h id hid⟩, (ofIds_eq_ok h _).mpr ⟨rfl, hid⟩⟩

/-- There is one reason only why there are no elements. -/
theorem of_ofIds_error {kind : ElementKind} {ids : SortedSet String} {failure : Failure}
    (h : ofIds kind ids = .error failure) : ∃ detail, failure = .invalidIdentifier detail := by
  by_cases hall : ∀ id ∈ ids, kind.admits id = true
  · obtain ⟨elements, helements, _⟩ := ofIds_ok hall
    cases h.symm.trans helements
  · obtain ⟨id, hrest⟩ := Classical.not_forall.mp hall
    obtain ⟨hid, hbad⟩ := Classical.not_imp.mp hrest
    obtain ⟨detail, hdetail⟩ := ofIds_error hid (by simpa using hbad)
    cases h.symm.trans hdetail
    exact ⟨detail, rfl⟩

end Element

theorem nonEmpty_ok_iff {α : Type} [Ord α] {found s : SortedSet α} :
    nonEmpty found = .ok s ↔ found = s ∧ ∃ a, a ∈ s := by
  unfold nonEmpty
  by_cases h : found.isEmpty = true
  · rw [if_pos h]
    constructor
    · intro h'
      cases h'
    · rintro ⟨rfl, a, ha⟩
      exact absurd ha (SortedSet.isEmpty_iff.mp h a)
  · rw [if_neg h, Except.ok.injEq]
    constructor
    · rintro rfl
      exact ⟨rfl, SortedSet.isEmpty_eq_false_iff.mp (by simpa using h)⟩
    · exact fun h' => h'.1

namespace Inquiry

/-- If every value can be read, those are shown that are in the language. -/
theorem displayed_ok {language : Language} {values : List String}
    (h : ∀ v ∈ values, ∃ text, language.display v = .ok text) :
    ∃ shown, displayed language values = .ok shown ∧
      ∀ x, x ∈ shown ↔ ∃ v ∈ values, language.display v = .ok (some x) := by
  induction values with
  | nil => exact ⟨.empty, rfl, fun x => by simp [SortedSet.not_mem_empty]⟩
  | cons v values ih =>
    obtain ⟨text, htext⟩ := h v List.mem_cons_self
    obtain ⟨others, hothers, hmem⟩ := ih fun w hw => h w (List.mem_cons_of_mem v hw)
    unfold displayed
    rw [htext, hothers]
    cases text with
    | none =>
      refine ⟨others, rfl, fun x => ?_⟩
      simp [hmem, htext]
    | some text =>
      refine ⟨others.insert text, rfl, fun x => ?_⟩
      simp [SortedSet.mem_insert, hmem, htext, eq_comm]

/-- The values are displayed one after another, and the first that cannot be read counts. -/
theorem displayed_error_iff {language : Language} {values : List String}
    {failure : Failure} :
    displayed language values = .error failure ↔ FirstFails language.display values failure := by
  induction values with
  | nil => exact iff_of_false (fun h => by cases h) not_firstFails_nil
  | cons value values ih =>
    unfold displayed
    rw [bind_error_iff, firstFails_cons_iff, ← ih]
    refine or_congr_right ?_
    constructor
    · rintro ⟨text, htext, h⟩
      rcases bind_error_iff.mp h with h | ⟨others, _, h⟩
      · exact ⟨⟨text, htext⟩, h⟩
      · cases h
    · rintro ⟨⟨text, htext⟩, h⟩
      exact ⟨text, htext, bind_error_iff.mpr (.inl h)⟩

/-- What is shown was read, every value of it, and is in the language. -/
theorem of_displayed_ok {language : Language} {values : List String} {shown : SortedSet String}
    (h : displayed language values = .ok shown) :
    (∀ v ∈ values, ∃ text, language.display v = .ok text) ∧
      ∀ x, x ∈ shown ↔ ∃ v ∈ values, language.display v = .ok (some x) := by
  have hread : ∀ v ∈ values, ∃ text, language.display v = .ok text := by
    rw [forall_ok_iff]
    intro failure hfails
    cases h.symm.trans (displayed_error_iff.mpr hfails)
  obtain ⟨shown', hshown', hmem⟩ := displayed_ok hread
  cases h.symm.trans hshown'
  exact ⟨hread, hmem⟩

end Inquiry

/-! ### The triples behind a look-up -/

namespace TripleSet

variable (triples : TripleSet)

/-- Whether a subject has a value, as it is shown, in a field. -/
def HasValue (field subject value : String) : Prop :=
  ∃ object, Triple.mk subject field object ∈ triples ∧ shownObject object = value

/-- Whether a subject is a person. -/
def IsPerson (subject : String) : Prop := triples.HasValue Field.type subject personType

/-- Whether an anchor stands for a subject: the subject carries it as a label in a language or, if
none does, as its type. -/
def IsCandidate (language : Language) (anchor subject : String) : Prop :=
  Triple.mk subject Field.label (language.mark anchor) ∈ triples ∨
    ((∀ other, Triple.mk other Field.label (language.mark anchor) ∉ triples) ∧
      Triple.mk subject Field.type anchor ∈ triples)

variable {triples}

theorem mem_objectsOf {field subject value : String} :
    value ∈ triples.objectsOf field subject ↔ triples.HasValue field subject value := by
  unfold objectsOf HasValue
  rw [SortedSet.mem_map]
  constructor
  · rintro ⟨t, ht, rfl⟩
    obtain ⟨hmem, hmatch⟩ := SortedSet.mem_filter.mp ht
    obtain ⟨hs, hf⟩ : t.subject = subject ∧ t.predicate = field := by simpa using hmatch
    refine ⟨t.object, ?_, rfl⟩
    rw [← hs, ← hf]
    exact hmem
  · rintro ⟨object, hmem, rfl⟩
    exact ⟨_, SortedSet.mem_filter.mpr ⟨hmem, by simp⟩, rfl⟩

theorem mem_subjectsOf {field object subject : String} :
    subject ∈ triples.subjectsOf field object ↔ Triple.mk subject field object ∈ triples := by
  unfold subjectsOf
  rw [SortedSet.mem_map]
  constructor
  · rintro ⟨t, ht, rfl⟩
    obtain ⟨hmem, hmatch⟩ := SortedSet.mem_filter.mp ht
    obtain ⟨hf, ho⟩ : t.predicate = field ∧ t.object = object := by simpa using hmatch
    rw [← hf, ← ho]
    exact hmem
  · intro hmem
    exact ⟨_, SortedSet.mem_filter.mpr ⟨hmem, by simp⟩, rfl⟩

/-- The subjects among which a look-up of topics chooses. -/
def candidates (triples : TripleSet) (language : Language) (anchor : String) : SortedSet String :=
  if (triples.subjectsOf Field.label (language.mark anchor)).isEmpty then
    triples.subjectsOf Field.type anchor
  else triples.subjectsOf Field.label (language.mark anchor)

theorem mem_candidates {language : Language} {anchor subject : String} :
    subject ∈ triples.candidates language anchor ↔ triples.IsCandidate language anchor subject := by
  unfold candidates IsCandidate
  by_cases h : (triples.subjectsOf Field.label (language.mark anchor)).isEmpty = true
  · have hnone := SortedSet.isEmpty_iff.mp h
    simp only [mem_subjectsOf] at hnone
    rw [if_pos h, mem_subjectsOf]
    constructor
    · exact fun hm => .inr ⟨hnone, hm⟩
    · rintro (hm | ⟨_, hm⟩)
      · exact absurd hm (hnone subject)
      · exact hm
  · obtain ⟨other, hother⟩ := SortedSet.isEmpty_eq_false_iff.mp (by simpa using h)
    rw [if_neg h, mem_subjectsOf]
    constructor
    · exact .inl
    · rintro (hm | ⟨hnone, _⟩)
      · exact hm
      · exact absurd (mem_subjectsOf.mp hother) (hnone other)

theorem index_topics (triples : TripleSet) (anchor : String) (language : Language) :
    triples.index.topics anchor language =
      (nonEmpty (triples.candidates language anchor)).bind (Element.ofIds .topic) := rfl

theorem index_property (triples : TripleSet) (field subject : String) :
    triples.index.property ⟨field, subject, .subject⟩ =
      nonEmpty (triples.objectsOf field subject) :=
  rfl

end TripleSet

end GraphAnswers
