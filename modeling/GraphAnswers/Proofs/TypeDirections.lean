import GraphAnswers.Proofs.FirstTopics
import GraphAnswers.Proofs.Inquiries
import GraphAnswers.Proofs.Labels
import GraphAnswers.Proofs.Results
/-!
# Types of a topic, topics of a type

"What is X" looks the types of a topic up, a quantity question the topics of a type.  Both read the
same triples from opposite ends, but not alike: a type is shown with spaces for its hyphens, whereas
the topics of a type are looked up by the type as it is stored.  So what is reported for a topic are
the types it is drawn for under any of their stored spellings (`TripleSet.reports_iff_draws`), and a
type that is stored with a hyphen is reported by a name under which nothing is drawn
(`TripleSet.hyphen_parts_directions`).  Besides, what is reported for a topic is reported as a whole:
one stored type that is no identifier of a type, and nothing is.
-/
namespace GraphAnswers

open Text

/-! ### Elements that a look-up gives -/

namespace Index

/-- Whether a look-up for elements of a kind succeeds and gives an element. -/
def Gives (index : Index) (kind : ElementKind) (lookup : Lookup) (e : Element) : Prop :=
  ∃ found, (Inquiry.elements kind lookup).run index = .ok found ∧ e ∈ found

theorem gives_iff_mem {index : Index} {kind : ElementKind} {lookup : Lookup}
    {found : SortedSet Element} (h : (Inquiry.elements kind lookup).run index = .ok found)
    (e : Element) : index.Gives kind lookup e ↔ e ∈ found := by
  constructor
  · rintro ⟨other, hother, he⟩
    cases hother.symm.trans h
    exact he
  · exact fun he => ⟨found, h, he⟩

/-- A look-up gives all of what it finds, or nothing on account of a single identifier. -/
theorem gives_iff {index : Index} {kind : ElementKind} {lookup : Lookup} {ids : SortedSet String}
    (h : index.property lookup = nonEmpty ids) (e : Element) : index.Gives kind lookup e ↔
      (∀ id ∈ ids, kind.admits id = true) ∧ e.kind = kind ∧ e.id ∈ ids := by
  unfold Gives
  rw [Inquiry.run_elements, h]
  constructor
  · rintro ⟨found, hfound, he⟩
    obtain ⟨ids', hids, hfound⟩ := bind_ok_iff.mp hfound
    obtain ⟨rfl, _⟩ := nonEmpty_ok_iff.mp hids
    exact ⟨Element.admits_of_ofIds hfound, (Element.ofIds_eq_ok hfound e).mp he⟩
  · rintro ⟨hall, hkind, hid⟩
    obtain ⟨found, hfound, hmem⟩ := Element.ofIds_ok hall
    refine ⟨found, ?_, (hmem e).mpr ⟨hkind, hid⟩⟩
    rw [nonEmpty_ok_iff.mpr ⟨rfl, e.id, hid⟩]
    exact hfound

end Index

/-! ### How a type is shown -/

/-- A type and the type as it is shown are identifiers of types alike. -/
theorem admits_shownObject (type : String) :
    ElementKind.type.admits (shownObject type) = ElementKind.type.admits type := by
  have hdot (c : Char) : (shownChar c != '.') = (c != '.') := by
    unfold shownChar
    by_cases hc : (c == '-') = true
    · rw [if_pos hc, beq_iff_eq.mp hc]
      rfl
    · rw [if_neg hc]
  unfold ElementKind.admits
  dsimp only
  rw [toList_shownObject]
  rcases type.toList with _ | ⟨first, _ | ⟨second, rest⟩⟩
  · rfl
  · rfl
  · exact hdot second

theorem shownObject_eq_self {type : String} (h : '-' ∉ type.toList) : shownObject type = type := by
  rw [← String.toList_inj, toList_shownObject, map_shownChar_eq_self h]

namespace TripleSet

variable (triples : TripleSet)

/-- Whether "What is X" and "Who is X" report a type for a topic. -/
def Reports (topic type : Element) : Prop :=
  triples.index.Gives .type ⟨Field.type, topic.id, .subject⟩ type

/-- Whether a topic is among those that a quantity question for a type draws from. -/
def Draws (type topic : Element) : Prop :=
  triples.index.Gives .topic ⟨Field.type, type.id, .object⟩ topic

/-- Whether each type that is stored for a topic is an identifier of a type. -/
def IsTyped (topic : Element) : Prop :=
  ∀ type, Triple.mk topic.id Field.type type ∈ triples → ElementKind.type.admits type = true

variable {triples} {topic type : Element}

theorem reports_iff : triples.Reports topic type ↔
    triples.IsTyped topic ∧ type.kind = .type ∧
      triples.HasValue Field.type topic.id type.id := by
  unfold Reports
  rw [Index.gives_iff (index_property triples Field.type topic.id)]
  simp only [mem_objectsOf]
  refine and_congr_left fun _ => ?_
  constructor
  · intro h type htype
    rw [← admits_shownObject]
    exact h _ ⟨type, htype, rfl⟩
  · rintro h shown ⟨type, htype, rfl⟩
    rw [admits_shownObject]
    exact h type htype

/-- If each subject is a topic, the topics of a type are the subjects that have it. -/
theorem draws_iff (hids : ∀ t ∈ triples, ElementKind.topic.admits t.subject = true) :
    triples.Draws type topic ↔
      topic.kind = .topic ∧ Triple.mk topic.id Field.type type.id ∈ triples := by
  have hlookup : triples.index.property ⟨Field.type, type.id, .object⟩ =
      nonEmpty (triples.subjectsOf Field.type type.id) := rfl
  unfold Draws
  rw [Index.gives_iff hlookup]
  simp only [mem_subjectsOf]
  exact and_iff_right fun subject hsubject => hids _ hsubject

end TripleSet

/-! ### What the questions tell -/

/-- What an inquiry comes to is what it comes to by the look-ups of the index. -/
theorem Inquiry.comes_run {α : Type} (index : Index) (x : Inquiry α) :
    x.Comes index (fun lookup outcome => outcome = index.property lookup) (x.run index) := by
  induction x with
  | done outcome => exact .done
  | property lookup next ih => exact .property rfl (ih _)
  | topics term language next ih => exact .topics (ih _)

namespace Engine

variable {index : Index} {kind : ElementKind} {field : String} {filter : PersonFilter}

/-- Whether each entry of results is what a look-up at its anchor gives. -/
def LookedUp (index : Index) (kind : ElementKind) (field : String) (results : ResultMap) : Prop :=
  ∀ e values, results.find? e = some values →
    (Inquiry.related kind field e).run index = .ok values

theorem LookedUp.insert {m : ResultMap} (h : LookedUp index kind field m) {e : Element}
    {values : SortedSet Element} (he : (Inquiry.related kind field e).run index = .ok values) :
    LookedUp index kind field (m.insert e values).1 := by
  by_cases hsome : ∃ v, v ∈ values
  · -- an entry that was there before has the same values
    have hsame : (m.find? e).elim values (·.union values) = values := by
      cases hold : m.find? e with
      | none => rfl
      | some old =>
        cases (h e old hold).symm.trans he
        exact SortedSet.ext fun v => by simp
    intro e' values' hfind
    rw [ResultMap.find?_insert m hsome, hsame] at hfind
    by_cases hanchor : e' = e
    · subst hanchor
      rw [if_pos rfl] at hfind
      cases hfind
      exact he
    · rw [if_neg hanchor] at hfind
      exact h e' values' hfind
  · have hnone : values.isEmpty = true := SortedSet.isEmpty_iff.mpr fun v hv => hsome ⟨v, hv⟩
    unfold ResultMap.insert
    rwa [if_pos hnone]

/-- **What is collected at a candidate is what a look-up there gives.** -/
theorem lookedUp_collect {candidates : SortedSet Element} {results : ResultMap}
    (h : (collect candidates kind field filter).run index = .ok results) :
    LookedUp index kind field results := by
  have hexact (lookup : Lookup) (outcome : Except Failure (SortedSet String))
      (h : outcome = index.property lookup) : outcome = index.property lookup := h
  have hcomes := (collect candidates kind field filter).comes_run index
  rw [h] at hcomes
  obtain ⟨collected, hwalk, houtcome⟩ := Inquiry.comes_bind_ok_iff.mp hcomes
  have hkept : LookedUp index kind field collected.results := by
    refine Inquiry.comes_foldlM (fun c => LookedUp index kind field c.results) hwalk
      (fun e values hfind => by cases hfind) fun c e c' _ hc hstep => ?_
    obtain ⟨accepted, _, hstep⟩ := Inquiry.comes_bind_ok_iff.mp hstep
    cases accepted with
    | false =>
      obtain rfl := Inquiry.comes_pure_iff.mp hstep
      exact hc
    | true =>
      obtain ⟨found, hfound, hstep⟩ := Inquiry.comes_bind_ok_iff.mp hstep
      cases found with
      | none =>
        obtain rfl := Inquiry.comes_pure_iff.mp hstep
        exact hc
      | some values =>
        obtain rfl := Inquiry.comes_pure_iff.mp hstep
        exact hc.insert ((Inquiry.comes_ifFound_some hfound).eq_run hexact).symm
  have houtcome := Inquiry.comes_ofExcept_iff.mp houtcome
  unfold Collected.outcome at houtcome
  split at houtcome
  · cases houtcome
    exact hkept
  · split at houtcome <;> cases houtcome

/-- "What is X" and "Who is X" report for a topic what they tell of it. -/
theorem reports_of_typeOf {triples : TripleSet} {engine : Engine} {language : Language}
    {anchor : String} {results : ResultMap} {topic : Element} {types : SortedSet Element}
    (h : (engine.resolve language (.typeOf anchor filter)).run triples.index = .ok results)
    (hfind : results.find? topic = some types) (type : Element) :
    type ∈ types ↔ triples.Reports topic type := by
  have hcollected : ∃ candidates,
      (collect candidates .type Field.type filter).run triples.index = .ok results := by
    unfold resolve at h
    rw [Inquiry.run_bind] at h
    obtain ⟨candidates, _, h⟩ := bind_ok_iff.mp h
    exact ⟨candidates, h⟩
  obtain ⟨candidates, hcollected⟩ := hcollected
  have hlooked : (Inquiry.elements .type ⟨Field.type, topic.id, .subject⟩).run triples.index =
      .ok types := lookedUp_collect hcollected topic types hfind
  exact (Index.gives_iff_mem hlooked type).symm

/-- A quantity question tells the first ones of the topics that it draws from. -/
theorem draws_of_quantity {triples : TripleSet} {engine : Engine} {language : Language}
    {term : String} {count : Nat} {results : ResultMap} {type : Element} (hkind : type.kind = .type)
    (hterm : engine.catalog.predicate term = .ok type.id)
    (h : (engine.resolve language (.quantity count term)).run triples.index = .ok results) :
    ∃ topics : SortedSet Element, (∀ e, e ∈ topics ↔ triples.Draws type e) ∧
      results.find? type = some (topics.take count) := by
  obtain ⟨kind, id, hid⟩ := type
  obtain rfl : kind = .type := hkind
  rw [run_resolve_quantity _ hterm, Index.firstTopics_of_type hid] at h
  obtain ⟨topics, htopics, h⟩ := bind_ok_iff.mp h
  cases h
  have hfound : ∃ v, v ∈ topics := by
    rw [Inquiry.run_elements] at htopics
    obtain ⟨ids, hids, helements⟩ := bind_ok_iff.mp htopics
    obtain ⟨rfl, subject, hsubject⟩ := nonEmpty_ok_iff.mp hids
    exact Element.exists_of_ofIds helements hsubject
  refine ⟨topics, fun e => (Index.gives_iff_mem htopics e).symm, ?_⟩
  rw [ResultMap.find?_truncate, ResultMap.find?_insert _ hfound, if_pos rfl]
  rfl

end Engine

namespace TripleSet

/-- **The two directions of the type relation**, where each subject is a topic.  A type is reported
for a topic just if each type stored for the topic is an identifier of a type, and the topic is drawn
for a type that is shown as the reported one.  So the two agree where no type of the topic has a
hyphen.  What is reported is what "What is X" and "Who is X" tell of the topic, and what is drawn from
is what a quantity question tells the first ones of. -/
theorem reports_iff_draws (triples : TripleSet)
    (hids : ∀ t ∈ triples, ElementKind.topic.admits t.subject = true)
    (topic type : Element) (htopic : topic.kind = .topic) (htype : type.kind = .type) :
    (triples.Reports topic type ↔ triples.IsTyped topic ∧
      ∃ stored : Element, stored.kind = .type ∧ shownObject stored.id = type.id ∧
        triples.Draws stored topic) ∧
    (triples.IsTyped topic →
      (∀ stored, Triple.mk topic.id Field.type stored ∈ triples → '-' ∉ stored.toList) →
      (triples.Reports topic type ↔ triples.Draws type topic)) ∧
    (∀ (engine : Engine) language anchor filter results types,
      (engine.resolve language (.typeOf anchor filter)).run triples.index = .ok results →
      results.find? topic = some types → (type ∈ types ↔ triples.Reports topic type)) ∧
    ∀ (engine : Engine) language term count results,
      engine.catalog.predicate term = .ok type.id →
      (engine.resolve language (.quantity count term)).run triples.index = .ok results →
      ∃ topics : SortedSet Element, (∀ e, e ∈ topics ↔ triples.Draws type e) ∧
        results.find? type = some (topics.take count) := by
  have hspelling : triples.Reports topic type ↔ triples.IsTyped topic ∧
      ∃ stored : Element, stored.kind = .type ∧ shownObject stored.id = type.id ∧
        triples.Draws stored topic := by
    rw [reports_iff]
    refine and_congr_right fun htyped => ?_
    constructor
    · rintro ⟨_, stored, hstored, hshown⟩
      exact ⟨⟨.type, stored, htyped stored hstored⟩, rfl, hshown,
        (draws_iff hids).mpr ⟨htopic, hstored⟩⟩
    · rintro ⟨stored, _, hshown, hdraws⟩
      exact ⟨htype, stored.id, ((draws_iff hids).mp hdraws).2, hshown⟩
  refine ⟨hspelling, fun htyped hplain => ?_, fun engine language anchor filter results types h =>
    fun hfind => Engine.reports_of_typeOf h hfind type,
    fun engine language term count results => Engine.draws_of_quantity htype⟩
  rw [hspelling]
  constructor
  · rintro ⟨_, stored, hkind, hshown, hdraws⟩
    have hstored := ((draws_iff hids).mp hdraws).2
    rw [shownObject_eq_self (hplain _ hstored)] at hshown
    exact Element.eq_of (hkind.trans htype.symm) hshown ▸ hdraws
  · intro hdraws
    have hstored := ((draws_iff hids).mp hdraws).2
    exact ⟨htyped, type, htype, shownObject_eq_self (hplain _ hstored), hdraws⟩

theorem admits_m1 : ElementKind.topic.admits "m.1" = true := by decide

/-- A topic. -/
def m1 : Element := ⟨.topic, "m.1", admits_m1⟩

/-- One topic, and what is stored for its types. -/
def withTypes (types : List String) : TripleSet := .ofList (types.map fun type => ⟨"m.1", "type", type⟩)

theorem mem_withTypes {types : List String} {t : Triple} :
    t ∈ withTypes types ↔ ∃ type ∈ types, ⟨"m.1", "type", type⟩ = t := by
  unfold withTypes
  rw [SortedSet.mem_ofList, List.mem_map]

theorem typed_mem_withTypes {types : List String} {type : String} :
    Triple.mk m1.id Field.type type ∈ withTypes types ↔ type ∈ types := by
  rw [mem_withTypes]
  constructor
  · rintro ⟨_, hmem, heq⟩
    cases heq
    exact hmem
  · exact fun hmem => ⟨type, hmem, rfl⟩

theorem subjects_withTypes (types : List String) :
    ∀ t ∈ withTypes types, ElementKind.topic.admits t.subject = true := by
  intro t ht
  obtain ⟨type, _, rfl⟩ := mem_withTypes.mp ht
  exact admits_m1

theorem reports_iff_draws_film :
    (∀ t ∈ withTypes ["film film"], ElementKind.topic.admits t.subject = true) ∧
      (withTypes ["film film"]).Reports m1 ⟨.type, "film film", by decide⟩ ∧
      (withTypes ["film film"]).Draws ⟨.type, "film film", by decide⟩ m1 := by
  have hids := subjects_withTypes ["film film"]
  have hdraws : (withTypes ["film film"]).Draws ⟨.type, "film film", by decide⟩ m1 :=
    (draws_iff hids).mpr ⟨rfl, typed_mem_withTypes.mpr (by decide)⟩
  have htyped : (withTypes ["film film"]).IsTyped m1 := by
    intro type htype
    rw [typed_mem_withTypes, List.mem_singleton] at htype
    rw [htype]
    decide
  exact ⟨hids, (reports_iff_draws _ hids m1 ⟨.type, "film film", by decide⟩ rfl rfl).1.mpr
    ⟨htyped, _, rfl, by decide, hdraws⟩, hdraws⟩

/-- **A hyphen parts the directions, and so does a type that is none.**  A type that is stored with a
hyphen is drawn for and not reported; the type that it is shown as is reported and not drawn for.
And a topic with a type that is no identifier is drawn for its other types, while none is
reported. -/
theorem hyphen_parts_directions :
    ((∀ t ∈ withTypes ["sci-fi film"], ElementKind.topic.admits t.subject = true) ∧
      (withTypes ["sci-fi film"]).Draws ⟨.type, "sci-fi film", by decide⟩ m1 ∧
      ¬(withTypes ["sci-fi film"]).Reports m1 ⟨.type, "sci-fi film", by decide⟩ ∧
      (withTypes ["sci-fi film"]).Reports m1 ⟨.type, "sci fi film", by decide⟩ ∧
      ¬(withTypes ["sci-fi film"]).Draws ⟨.type, "sci fi film", by decide⟩ m1) ∧
    ((∀ t ∈ withTypes ["f", "film film"], ElementKind.topic.admits t.subject = true) ∧
      (withTypes ["f", "film film"]).Draws ⟨.type, "film film", by decide⟩ m1 ∧
      ¬(withTypes ["f", "film film"]).Reports m1 ⟨.type, "film film", by decide⟩) := by
  have hsciFi := subjects_withTypes ["sci-fi film"]
  have hmixed := subjects_withTypes ["f", "film film"]
  have htyped : (withTypes ["sci-fi film"]).IsTyped m1 := by
    intro type htype
    rw [typed_mem_withTypes, List.mem_singleton] at htype
    rw [htype]
    decide
  refine ⟨⟨hsciFi, ?_, fun h => ?_, ?_, fun h => ?_⟩, hmixed, ?_, fun h => ?_⟩
  · exact (draws_iff hsciFi).mpr ⟨rfl, typed_mem_withTypes.mpr (by decide)⟩
  · obtain ⟨_, _, stored, hstored, hshown⟩ := reports_iff.mp h
    rw [typed_mem_withTypes, List.mem_singleton] at hstored
    rw [hstored] at hshown
    exact absurd hshown (by decide)
  · exact reports_iff.mpr
      ⟨htyped, rfl, "sci-fi film", typed_mem_withTypes.mpr (by decide), by decide⟩
  · have hstored := typed_mem_withTypes.mp ((draws_iff hsciFi).mp h).2
    exact absurd hstored (by decide)
  · exact (draws_iff hmixed).mpr ⟨rfl, typed_mem_withTypes.mpr (by decide)⟩
  · have htyped := (reports_iff.mp h).1 "f" (typed_mem_withTypes.mpr (by decide))
    exact absurd htyped (by decide)

end TripleSet

end GraphAnswers
