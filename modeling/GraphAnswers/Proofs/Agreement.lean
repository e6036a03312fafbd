import GraphAnswers.Engine
import GraphAnswers.Proofs.Lookups
import GraphAnswers.Proofs.NewIndex
/-!
# A store answers like the set of its triples

A store keeps a row for every dump that contributes a triple, selects values as they are stored, and
shows them afterwards; a set of triples in memory filters what it shows.  Neither the repetitions nor
the values that become one when they are shown make a difference: each look-up comes to the same
(`Store.index_triples`), so every inquiry does.
-/
namespace GraphAnswers

namespace Store

variable (s : Store)

/-- The triples that the rows carry, whichever dumps contributed them. -/
def triples : TripleSet := .ofList (s.rows.map Row.triple)

variable {s}

theorem mem_triples {t : Triple} : t ∈ s.triples ↔ ∃ dump, Row.mk t dump ∈ s.rows := by
  unfold triples
  rw [SortedSet.mem_ofList, List.mem_map]
  constructor
  · rintro ⟨row, hrow, rfl⟩
    exact ⟨row.dump, hrow⟩
  · rintro ⟨dump, hrow⟩
    exact ⟨_, hrow, rfl⟩

/-- Selecting from the rows is filtering the triples: a triple counts once, whatever number of dumps
contributed it. -/
theorem select_eq (p : Triple → Bool) (f : Triple → String) :
    SortedSet.ofList ((s.rows.filter fun r => p r.triple).map fun r => f r.triple) =
      (s.triples.filter p).map f := by
  refine SortedSet.ext fun value => ?_
  rw [SortedSet.mem_ofList, List.mem_map, SortedSet.mem_map]
  constructor
  · rintro ⟨row, hrow, rfl⟩
    obtain ⟨hmem, hp⟩ := List.mem_filter.mp hrow
    exact ⟨row.triple, SortedSet.mem_filter.mpr ⟨mem_triples.mpr ⟨row.dump, hmem⟩, hp⟩, rfl⟩
  · rintro ⟨t, ht, rfl⟩
    obtain ⟨hmem, hp⟩ := SortedSet.mem_filter.mp ht
    obtain ⟨dump, hrow⟩ := mem_triples.mp hmem
    exact ⟨⟨t, dump⟩, List.mem_filter.mpr ⟨hrow, hp⟩, rfl⟩

theorem selectSubjects_eq (predicate object : String) :
    s.selectSubjects predicate object = s.triples.subjectsOf predicate object :=
  select_eq (fun t => t.predicate == predicate && t.object == object) Triple.subject

/-- Objects that are shown alike are selected one by one, and become one when they are shown. -/
theorem map_selectObjects (predicate subject : String) :
    (s.selectObjects predicate subject).map shownObject =
      s.triples.objectsOf predicate subject := by
  have hselected : s.selectObjects predicate subject =
      (s.triples.filter fun t => t.predicate == predicate && t.subject == subject).map
        Triple.object :=
    select_eq (fun t => t.predicate == predicate && t.subject == subject) Triple.object
  refine SortedSet.ext fun value => ?_
  rw [hselected, SortedSet.mem_map, TripleSet.objectsOf, SortedSet.mem_map]
  constructor
  · rintro ⟨object, hobject, rfl⟩
    obtain ⟨t, ht, rfl⟩ := SortedSet.mem_map.mp hobject
    obtain ⟨hmem, hmatch⟩ := SortedSet.mem_filter.mp ht
    exact ⟨t, SortedSet.mem_filter.mpr ⟨hmem, by rwa [Bool.and_comm]⟩, rfl⟩
  · rintro ⟨t, ht, rfl⟩
    obtain ⟨hmem, hmatch⟩ := SortedSet.mem_filter.mp ht
    exact ⟨t.object, SortedSet.mem_map.mpr
      ⟨t, SortedSet.mem_filter.mpr ⟨hmem, by rwa [Bool.and_comm]⟩, rfl⟩, rfl⟩

/-- **A store and the set of its triples are one index.** -/
theorem index_triples (s : Store) : s.index = s.triples.index := by
  have hproperty : s.index.property = s.triples.index.property := by
    funext ⟨field, anchor, role⟩
    cases role with
    | subject => exact congrArg nonEmpty (map_selectObjects field anchor)
    | object => exact congrArg nonEmpty (selectSubjects_eq field anchor)
  have htopics : s.index.topics = s.triples.index.topics := by
    funext term language
    unfold index TripleSet.index
    simp only [selectSubjects_eq]
  calc s.index = ⟨s.index.property, s.index.topics⟩ := rfl
    _ = ⟨s.triples.index.property, s.triples.index.topics⟩ := by rw [hproperty, htopics]
    _ = s.triples.index := rfl

end Store

namespace Database

theorem index_eq_of_needRows {d : Database} (h : d.needRows = .ok ()) :
    d.index = d.store.triples.index := by
  rw [← Store.index_triples]
  unfold Database.index
  rw [h]
  rfl

/-- **An index file answers like the set of its triples**, whatever rows it holds: each look-up,
what is asked about an element, and each question, in whichever language, has the same result or the
same failure. -/
theorem answers_like_triples {d : Database} (h : d.needRows = .ok ()) :
    (∀ lookup, d.index.property lookup = d.store.triples.index.property lookup) ∧
    (∀ term language, d.index.topics term language = d.store.triples.index.topics term language) ∧
    (∀ kind lookup, (Inquiry.elements kind lookup).run d.index =
      (Inquiry.elements kind lookup).run d.store.triples.index) ∧
    (∀ e, (Inquiry.isPerson e).run d.index = (Inquiry.isPerson e).run d.store.triples.index) ∧
    (∀ e language, (Inquiry.labels e language).run d.index =
      (Inquiry.labels e language).run d.store.triples.index) ∧
    (∀ e language, (Inquiry.description e language).run d.index =
      (Inquiry.description e language).run d.store.triples.index) ∧
    (∀ (engine : Engine) language question, (engine.queryIn language question).run d.index =
      (engine.queryIn language question).run d.store.triples.index) ∧
    ∀ (engine : Engine) language question, (engine.answerIn language question).run d.index =
      (engine.answerIn language question).run d.store.triples.index := by
  rw [index_eq_of_needRows h]
  exact ⟨fun _ => rfl, fun _ _ => rfl, fun _ _ => rfl, fun _ => rfl, fun _ _ => rfl,
    fun _ _ => rfl, fun _ _ _ => rfl, fun _ _ _ => rfl⟩

/-- Two dumps with a triple in common, and with objects that are shown alike. -/
def twoDumps : Database :=
  { Migration.fresh with store := { rows := [
      ⟨⟨"m.1", "label", "Jaws @en"⟩, "a"⟩, ⟨⟨"m.1", "label", "Jaws @en"⟩, "b"⟩,
      ⟨⟨"m.1", "type", "film-film"⟩, "a"⟩, ⟨⟨"m.1", "type", "film film"⟩, "b"⟩] } }

theorem twoDumps_answered :
    twoDumps.needRows = .ok () ∧ twoDumps.store.triples.size = 3 ∧
      (({} : Engine).answerIn .english "What is Jaws").run twoDumps.index = .ok "m.1: film film" := by
  have hrows : twoDumps.needRows = .ok () := Migration.fresh_hasTables.rows
  obtain ⟨_, _, _, _, _, _, _, hanswers⟩ := answers_like_triples hrows
  refine ⟨hrows, by decide, ?_⟩
  rw [hanswers]
  decide

end Database

end GraphAnswers
