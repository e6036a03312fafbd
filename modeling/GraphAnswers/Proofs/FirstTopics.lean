import GraphAnswers.Engine
import GraphAnswers.Proofs.Agreement
import GraphAnswers.Proofs.Lookups
import GraphAnswers.Proofs.Outcomes
/-!
# The first topics of a type

A quantity question asks for every subject that has a type, makes a topic of each, and only then
leaves out those beyond its count.  A set of topics lists them as the set of their identifiers does
(`Element.ids_ofIds`), so what a smaller count keeps is the beginning of what a greater one keeps,
and a subject that is no topic fails the question for every count (`Engine.quantity_first`).
-/
namespace GraphAnswers

open Std

/-! ### Elements in order -/

/-- A list in ascending order is the list of the set of its members. -/
theorem SortedSet.toList_ofList {α : Type} [Ord α] [TransOrd α] [LawfulEqOrd α] {l : List α}
    (h : l.Pairwise fun a b => compare a b = .lt) : (SortedSet.ofList l).toList = l :=
  eq_of_same_members (SortedSet.ofList l).ascending h fun _ => SortedSet.mem_ofList

namespace Element

/-- Elements are ordered by their identifiers first. -/
theorem compare_of_id {a b : Element} (h : compare a.id b.id = .lt) : compare a b = .lt := by
  show (compare a.id b.id).then (compare a.kind.rank b.kind.rank) = .lt
  rw [h]
  rfl

theorem id_ofId {kind : ElementKind} {id : String} {e : Element} (h : ofId kind id = .ok e) :
    e.kind = kind ∧ e.id = id := by
  unfold ofId at h
  split at h
  · cases h
    exact ⟨rfl, rfl⟩
  · cases h

theorem ids_mapM {kind : ElementKind} {ids : List String} {elements : List Element}
    (h : ids.mapM (ofId kind) = .ok elements) : elements.map Element.id = ids := by
  induction ids generalizing elements with
  | nil =>
    cases h
    rfl
  | cons id ids ih =>
    rw [List.mapM_cons] at h
    obtain ⟨e, he, h⟩ := bind_ok_iff.mp h
    obtain ⟨rest, hrest, h⟩ := bind_ok_iff.mp h
    cases h
    rw [List.map_cons, (id_ofId he).2, ih hrest]

/-- Elements of one kind are told apart by their identifiers. -/
theorem eq_of_ids {kind : ElementKind} {l m : List Element} (hl : ∀ e ∈ l, e.kind = kind)
    (hm : ∀ e ∈ m, e.kind = kind) (h : l.map Element.id = m.map Element.id) : l = m := by
  induction l generalizing m with
  | nil => exact (List.map_eq_nil_iff.mp h.symm).symm
  | cons e l ih =>
    obtain ⟨e', m, rfl, hid, hids⟩ := List.map_eq_cons_iff.mp h.symm
    rw [List.forall_mem_cons] at hl hm
    rw [eq_of (hl.1.trans hm.1.symm) hid.symm, ih hl.2 hm.2 hids.symm]

/-- **The elements of a set of identifiers come in the order of these.** -/
theorem ids_ofIds {kind : ElementKind} {ids : SortedSet String} {elements : SortedSet Element}
    (h : ofIds kind ids = .ok elements) : elements.toList.map Element.id = ids.toList := by
  obtain ⟨found, hfound, h⟩ := bind_ok_iff.mp h
  cases h
  have hids := ids_mapM hfound
  have hsorted : found.Pairwise fun a b => compare a b = .lt := by
    have hascending := ids.ascending
    rw [← hids, List.pairwise_map] at hascending
    exact hascending.imp compare_of_id
  rw [SortedSet.toList_ofList hsorted, hids]

end Element

/-! ### The subjects of a type -/

theorem Inquiry.run_elements (index : Index) (kind : ElementKind) (lookup : Lookup) :
    (elements kind lookup).run index = index.property lookup >>= Element.ofIds kind := by
  unfold elements
  rw [run_bind, run_values]
  rfl

theorem nonEmpty_injective {α : Type} [Ord α] {s t : SortedSet α} (h : nonEmpty s = nonEmpty t) :
    s = t := by
  unfold nonEmpty at h
  by_cases hs : s.isEmpty = true
  · by_cases ht : t.isEmpty = true
    · exact SortedSet.toList_injective
        ((List.isEmpty_iff.mp hs).trans (List.isEmpty_iff.mp ht).symm)
    · rw [if_pos hs, if_neg ht] at h
      cases h
  · by_cases ht : t.isEmpty = true
    · rw [if_neg hs, if_pos ht] at h
      cases h
    · rw [if_neg hs, if_neg ht] at h
      exact Except.ok.inj h

namespace Index

/-- Whether these are the subjects that an index has for a type: it tells them or, if there are none,
finds nothing. -/
def HasOfType (index : Index) (type : String) (subjects : SortedSet String) : Prop :=
  index.property ⟨Field.type, type, .object⟩ = nonEmpty subjects

/-- In memory, the subjects of a type are those of the triples. -/
theorem hasOfType_iff {triples : TripleSet} {type : String} {subjects : SortedSet String} :
    triples.index.HasOfType type subjects ↔
      ∀ s, s ∈ subjects ↔ Triple.mk s Field.type type ∈ triples := by
  have hlookup : triples.index.property ⟨Field.type, type, .object⟩ =
      nonEmpty (triples.subjectsOf Field.type type) := rfl
  unfold HasOfType
  rw [hlookup]
  constructor
  · intro h s
    rw [← nonEmpty_injective h, TripleSet.mem_subjectsOf]
  · intro h
    refine congrArg nonEmpty (SortedSet.ext fun s => ?_)
    rw [TripleSet.mem_subjectsOf, h]

/-- In an index file, they are those of the rows, whichever dumps these come from. -/
theorem hasOfType_database_iff {d : Database} (hrows : d.needRows = .ok ()) {type : String}
    {subjects : SortedSet String} : d.index.HasOfType type subjects ↔
      ∀ s, s ∈ subjects ↔ ∃ dump, Row.mk ⟨s, Field.type, type⟩ dump ∈ d.store.rows := by
  rw [Database.index_eq_of_needRows hrows, hasOfType_iff]
  exact forall_congr' fun s => iff_congr Iff.rfl Store.mem_triples

/-- What an index gives for a type and a count: the topics that have the type, as far as the count
goes, with the type for their anchor. -/
def firstTopics (index : Index) (type : String) (count : Nat) : Except Failure ResultMap := do
  let key ← Element.ofId .type type
  let topics ← (Inquiry.elements .topic ⟨Field.type, key.id, .object⟩).run index
  pure ((ResultMap.empty.insert key topics).1.truncate count)

theorem firstTopics_of_type {index : Index} {type : String}
    (htype : ElementKind.type.admits type = true) (count : Nat) :
    index.firstTopics type count =
      (Inquiry.elements .topic ⟨Field.type, type, .object⟩).run index >>= fun topics =>
        .ok ((ResultMap.empty.insert ⟨.type, type, htype⟩ topics).1.truncate count) := by
  unfold firstTopics
  rw [Element.ofId_of_admits htype]
  rfl

end Index

/-- Whether these are the first topics among subjects, as many as a count says. -/
structure Element.AreFirst (values : SortedSet Element) (subjects : SortedSet String)
    (count : Nat) : Prop where
  topics : ∀ v ∈ values, v.kind = .topic
  ids : values.toList.map Element.id = subjects.toList.take count

namespace Element.AreFirst

variable {values few many : SortedSet Element} {subjects : SortedSet String} {count n m : Nat}

theorem size_eq (h : AreFirst values subjects count) : values.size = min count subjects.size := by
  have hlength := congrArg List.length h.ids
  rwa [List.length_map, List.length_take] at hlength

/-- A smaller count keeps the beginning of what a greater one keeps. -/
theorem prefix_of_le (hfew : AreFirst few subjects n) (hmany : AreFirst many subjects m)
    (h : n ≤ m) : few = many.take n := by
  have hids : few.toList.map Element.id = (many.toList.take n).map Element.id := by
    rw [hfew.ids, List.map_take, hmany.ids, List.take_take, Nat.min_eq_left h]
  exact SortedSet.toList_injective (eq_of_ids hfew.topics
    (fun v hv => hmany.topics v (List.mem_of_mem_take hv)) hids)

/-- A count that is large enough keeps all. -/
theorem mem_of_size_le (h : AreFirst values subjects count) (hall : subjects.size ≤ count)
    (e : Element) : e ∈ values ↔ e.kind = .topic ∧ e.id ∈ subjects := by
  have hids : values.toList.map Element.id = subjects.toList := by
    rw [h.ids, List.take_of_length_le hall]
  have hmem (id : String) : id ∈ subjects ↔ ∃ v ∈ values, v.id = id := by
    rw [SortedSet.mem_def, ← hids, List.mem_map]
    rfl
  rw [hmem]
  constructor
  · exact fun he => ⟨h.topics e he, e, he, rfl⟩
  · rintro ⟨hkind, v, hv, hid⟩
    exact eq_of ((h.topics v hv).trans hkind.symm) hid ▸ hv

end Element.AreFirst

namespace Engine

/-! ### The question -/

/-- A quantity question finds what the index gives for the type that its term stands for. -/
theorem run_quantity (index : Index) (engine : Engine) (count : Nat) (term : String) :
    (engine.quantity count term).run index =
      quantityType engine.catalog term count >>= fun type => index.firstTopics type count := by
  unfold quantity Index.firstTopics
  rw [Inquiry.run_bind]
  refine congrArg _ (funext fun type => ?_)
  rw [Inquiry.run_bind]
  refine congrArg _ (funext fun key => ?_)
  rw [Inquiry.run_bind]
  rfl

theorem quantityType_of_predicate {catalog : Catalog} {term type : String}
    (h : catalog.predicate term = .ok type) (count : Nat) :
    quantityType catalog term count = .ok type := by
  have hcontains : catalog.contains term = true := by
    obtain ⟨entry, hentry, _⟩ := bind_ok_iff.mp h
    unfold Catalog.lookup at hentry
    unfold Catalog.contains SortedMap.contains
    cases hfind : catalog.entries.find? term with
    | none =>
      rw [hfind] at hentry
      cases hentry
    | some entry => rfl
  unfold quantityType
  rw [if_pos hcontains, h]

/-- A question for a term of the catalog comes to the first topics of the term's type. -/
theorem run_resolve_quantity (index : Index) {engine : Engine} {term type : String}
    (hterm : engine.catalog.predicate term = .ok type) (language : Language) (count : Nat) :
    (engine.resolve language (.quantity count term)).run index = index.firstTopics type count := by
  show (engine.quantity count term).run index = _
  rw [run_quantity, quantityType_of_predicate hterm]
  rfl

theorem firstTopics_ok {index : Index} {type : String} {subjects : SortedSet String}
    (htype : ElementKind.type.admits type = true) (hsubjects : index.HasOfType type subjects)
    (hsome : ∃ s, s ∈ subjects) (htopics : ∀ s ∈ subjects, ElementKind.topic.admits s = true)
    (count : Nat) : ∃ results values, index.firstTopics type count = .ok results ∧
      results.toList = [(⟨.type, type, htype⟩, values)] ∧
      Element.AreFirst values subjects count := by
  obtain ⟨topics, hfound, hmem⟩ := Element.ofIds_ok htopics
  have hids := Element.ids_ofIds hfound
  have hrun : (Inquiry.elements .topic ⟨Field.type, type, .object⟩).run index = .ok topics := by
    rw [Inquiry.run_elements, hsubjects, nonEmpty_ok_iff.mpr ⟨rfl, hsome⟩]
    exact hfound
  -- there are topics, so that they are stored at all
  have hstored : topics.isEmpty = false := by
    obtain ⟨s, hs⟩ := hsome
    exact SortedSet.isEmpty_eq_false_iff.mpr ⟨⟨.topic, s, htopics s hs⟩, (hmem _).mpr ⟨rfl, hs⟩⟩
  refine ⟨(ResultMap.empty.insert ⟨.type, type, htype⟩ topics).1.truncate count, topics.take count,
    ?_, ?_, fun v hv => ((hmem v).mp (List.mem_of_mem_take hv)).1, ?_⟩
  · rw [Index.firstTopics_of_type htype, hrun]
    rfl
  · unfold ResultMap.insert
    rw [hstored]
    rfl
  · show (topics.toList.take count).map Element.id = _
    rw [List.map_take, hids]

theorem firstTopics_of_error {index : Index} {type : String} {failure : Failure}
    (htype : ElementKind.type.admits type = true)
    (h : index.property ⟨Field.type, type, .object⟩ >>= Element.ofIds .topic = .error failure)
    (count : Nat) : index.firstTopics type count = .error failure := by
  rw [Index.firstTopics_of_type htype, Inquiry.run_elements, h]
  rfl

/-- **A quantity question tells the first topics of the type of its term**, in order: as many as it
asks for, or all there are.  So what it tells for a smaller count is the beginning of what it tells
for a greater one.  Without a subject of the type nothing is found, and a subject that is no topic
fails the question, whatever the count is. -/
theorem quantity_first (index : Index) (engine : Engine) (language : Language)
    {term type : String} {subjects : SortedSet String}
    (hterm : engine.catalog.predicate term = .ok type)
    (htype : ElementKind.type.admits type = true)
    (hsubjects : index.HasOfType type subjects) :
    let outcome (count : Nat) := (engine.resolve language (.quantity count term)).run index
    (∀ question count, Question.template question = .ok (.quantity count term) →
      (engine.queryIn language question).run index = outcome count) ∧
    ((∃ s, s ∈ subjects) → (∀ s ∈ subjects, ElementKind.topic.admits s = true) →
      ∀ n m, n ≤ m → ∃ less more few many,
        outcome n = .ok less ∧ less.toList = [(⟨.type, type, htype⟩, few)] ∧
        outcome m = .ok more ∧ more.toList = [(⟨.type, type, htype⟩, many)] ∧
        Element.AreFirst few subjects n ∧ few.size = min n subjects.size ∧
        few.toList = many.toList.take n ∧
        (subjects.size ≤ n → ∀ e, e ∈ few ↔ e.kind = .topic ∧ e.id ∈ subjects)) ∧
    ((∀ s, s ∉ subjects) → ∀ n, outcome n = .error .notFound) ∧
    ((∃ s ∈ subjects, ElementKind.topic.admits s = false) →
      ∃ detail, ∀ n, outcome n = .error (.invalidIdentifier detail)) := by
  intro outcome
  have houtcome (count : Nat) : outcome count = index.firstTopics type count :=
    run_resolve_quantity index hterm language count
  refine ⟨fun question count hquestion => ?_, fun hsome htopics n m hle => ?_, fun hnone n => ?_, ?_⟩
  · unfold queryIn
    rw [Inquiry.run_bind, hquestion]
    rfl
  · obtain ⟨less, few, hless, hfew, hfirst⟩ := firstTopics_ok htype hsubjects hsome htopics n
    obtain ⟨more, many, hmore, hmany, hfirst'⟩ := firstTopics_ok htype hsubjects hsome htopics m
    refine ⟨less, more, few, many, (houtcome n).trans hless, hfew, (houtcome m).trans hmore, hmany,
      hfirst, hfirst.size_eq, ?_, fun hall => hfirst.mem_of_size_le hall⟩
    exact congrArg SortedSet.toList (hfirst.prefix_of_le hfirst' hle)
  · rw [houtcome]
    refine firstTopics_of_error htype ?_ n
    rw [hsubjects, nonEmpty, if_pos (SortedSet.isEmpty_iff.mpr hnone)]
    rfl
  · rintro ⟨s, hs, hbad⟩
    obtain ⟨detail, hdetail⟩ := Element.ofIds_error hs hbad
    refine ⟨detail, fun n => (houtcome n).trans (firstTopics_of_error htype ?_ n)⟩
    rw [hsubjects, nonEmpty_ok_iff.mpr ⟨rfl, s, hs⟩]
    exact hdetail

/-- Three films, in an index file; one of them comes from two dumps. -/
def threeFilms : Database :=
  { Migration.fresh with store := { rows := [
      ⟨⟨"m.3", "type", "film film"⟩, "a"⟩, ⟨⟨"m.1", "type", "film film"⟩, "a"⟩,
      ⟨⟨"m.2", "type", "film film"⟩, "b"⟩, ⟨⟨"m.1", "type", "film film"⟩, "b"⟩] } }

theorem quantity_first_films :
    threeFilms.index.HasOfType "film film" (.ofList ["m.1", "m.2", "m.3"]) ∧
      ∃ results films, (resolve {} .english (.quantity 2 "movies")).run threeFilms.index =
          .ok results ∧
        results.toList = [(⟨.type, "film film", by decide⟩, films)] ∧
        films.toList.map Element.id = ["m.1", "m.2"] := by
  have hterm : ({} : Engine).catalog.predicate "movies" = .ok "film film" := by decide +kernel
  have hsubjects : threeFilms.index.HasOfType "film film" (.ofList ["m.1", "m.2", "m.3"]) := by
    have hrows : threeFilms.needRows = .ok () := by decide
    rw [Index.hasOfType_database_iff hrows]
    intro s
    rw [SortedSet.mem_ofList]
    constructor
    · intro hs
      simp only [List.mem_cons, List.not_mem_nil, or_false] at hs
      rcases hs with rfl | rfl | rfl
      · exact ⟨"a", by decide⟩
      · exact ⟨"b", by decide⟩
      · exact ⟨"a", by decide⟩
    · rintro ⟨dump, hrow⟩
      simp only [threeFilms, List.mem_cons, Row.mk.injEq, Triple.mk.injEq, List.not_mem_nil,
        or_false] at hrow
      rcases hrow with ⟨⟨rfl, _⟩, _⟩ | ⟨⟨rfl, _⟩, _⟩ | ⟨⟨rfl, _⟩, _⟩ | ⟨⟨rfl, _⟩, _⟩ <;> decide
  obtain ⟨_, hfirst, _⟩ := quantity_first threeFilms.index {} .english hterm (by decide) hsubjects
  obtain ⟨less, _, few, _, hless, hfew, _, _, hare, _⟩ :=
    hfirst ⟨"m.1", by decide⟩ (by decide) 2 3 (by decide)
  exact ⟨hsubjects, less, few, hless, hfew, hare.ids⟩

end Engine

end GraphAnswers
