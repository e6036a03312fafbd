import GraphAnswers.Proofs.Labels
import GraphAnswers.Proofs.OnePredicate
import GraphAnswers.Proofs.ScannedParts
/-!
# Types in several spellings

A line that gives a type may spell its name as it likes.  What is stored is the name as it is reduced,
and the look-ups by type compare it as it stands: so does the test for a person, but for a hyphen,
which is shown as a blank (`shownObject_eq_personType_iff`).  So a type is known by the last two words
of its name, however the dumps that an index is made of spell it
(`Upkeep.type_known_by_last_words`).
-/
namespace GraphAnswers

open Text Dump

namespace Dump

/-- The type of a line is what is left of its object. -/
theorem object_of_scan_type {cap : Nat} {line : String} {t : Triple} (h : scan cap line = some t)
    (htype : t.predicate = Field.type) :
    t.object = reduceType (String.ofList (objectText cap line)) := by
  obtain ⟨_, subject, predicate, part, rest, hparts, rfl⟩ := scan_eq_some_iff.mp h
  rw [object_tripleOf, objectText_eq hparts]
  exact if_pos htype

end Dump

/-! ### The type of persons -/

/-- What is shown without a blank is stored as it is shown. -/
theorem eq_of_map_shownChar {cs ds : List Char} (h : cs.map shownChar = ds) (hds : ' ' ∉ ds) :
    cs = ds := by
  have hnone : '-' ∉ cs := by
    intro hmem
    refine hds ?_
    rw [← h]
    exact List.mem_map.mpr ⟨'-', hmem, rfl⟩
  rw [← h, map_shownChar_eq_self hnone]

/-- **What is shown as the type of persons** is this type, and the same with a hyphen. -/
theorem shownObject_eq_personType_iff {type : String} :
    shownObject type = personType ↔ type = "people person" ∨ type = "people-person" := by
  constructor
  · intro h
    have hshown : type.toList.map shownChar = "people".toList ++ ' ' :: "person".toList := by
      rw [← toList_shownObject, h]
      rfl
    obtain ⟨front, rest, htype, hfront, hrest⟩ := List.map_eq_append_iff.mp hshown
    obtain ⟨c, back, rfl, hc, hback⟩ := List.map_eq_cons_iff.mp hrest
    obtain rfl := eq_of_map_shownChar hfront (by decide)
    obtain rfl := eq_of_map_shownChar hback (by decide)
    rw [← String.toList_inj, ← String.toList_inj, htype]
    unfold shownChar at hc
    split at hc
    · rename_i hhyphen
      rw [beq_iff_eq.mp hhyphen]
      exact .inr rfl
    · rw [hc]
      exact .inl rfl
  · rintro (rfl | rfl) <;> decide

/-- In which words the names of the type of persons end. -/
theorem shownObject_reduceType_eq_personType_iff {name : String} :
    shownObject (reduceType name) = personType ↔
      lastWords name = ["people", "person"] ∨ lastWords name = ["people-person"] := by
  have hname (other : String) (hother : reduceType other = other) :
      reduceType name = other ↔ lastWords name = lastWords other := by
    rw [← reduceType_eq_iff, hother]
  have htwo : lastWords "people person" = ["people", "person"] := by decide
  have hone : lastWords "people-person" = ["people-person"] := by decide
  rw [shownObject_eq_personType_iff, hname _ (by decide), hname _ (by decide), htwo, hone]

/-! ### Types that dumps give -/

namespace Reading

/-- Whether a dump gives a subject a type, under a name as it is spelled there: what the line has
for its object, cut off at the greatest length of an object. -/
def GivesType (r : Reading) (subject name : String) : Prop :=
  ∃ line t, r.GivesBy line t ∧ t.subject = subject ∧ t.predicate = Field.type ∧
    name = String.ofList (objectText r.options.maxObjectLength line)

end Reading

namespace Upkeep

variable {path : String} {u : Upkeep}

/-- Whether one of the dumps that an index is made of gives a subject a type, under this name. -/
def GivesType (u : Upkeep) (subject name : String) : Prop := ∃ r ∈ u.readings, r.GivesType subject name

/-- **The types that are stored** are the names that are given, reduced. -/
theorem InOrder.mem_types (h : u.InOrder) {subject type : String} :
    Triple.mk subject Field.type type ∈ u.index.store.triples ↔
      ∃ name, u.GivesType subject name ∧ reduceType name = type := by
  rw [h.mem_triples]
  constructor
  · rintro ⟨r, hr, line, hline⟩
    exact ⟨_, ⟨r, hr, line, _, hline, rfl, rfl, rfl⟩, (object_of_scan_type hline.2.1 rfl).symm⟩
  · rintro ⟨_, ⟨r, hr, line, ⟨_, _, _⟩, hline, rfl, rfl, rfl⟩, rfl⟩
    rw [← object_of_scan_type hline.2.1 rfl]
    exact ⟨r, hr, line, hline⟩

/-- **Whether an index knows types by their last words**, however its dumps spell them. -/
structure KnowsByLastWords (u : Upkeep) : Prop where
  /-- The types that are stored for a subject are the names that are given to it, reduced. -/
  stored : ∀ subject type, Triple.mk subject Field.type type ∈ u.index.store.triples ↔
    ∃ spelled, u.GivesType subject spelled ∧ reduceType spelled = type
  /-- A look-up of the subjects of a type gives those to which a name with the same last words is
  given.  So does a look-up of topics, where none is labelled so. -/
  anchored : ∀ name, ∃ subjects : SortedSet String,
    (∀ subject, subject ∈ subjects ↔
      ∃ spelled, u.GivesType subject spelled ∧ lastWords spelled = lastWords name) ∧
    u.index.index.property ⟨Field.type, reduceType name, .object⟩ = nonEmpty subjects ∧
    ∀ language : Language,
      (∀ subject, Triple.mk subject Field.label (language.mark (reduceType name)) ∉
        u.index.store.triples) →
      u.index.index.topics (reduceType name) language =
        (nonEmpty subjects).bind (Element.ofIds .topic)
  /-- A topic is a person exactly if a name of the type of persons is given to it. -/
  persons : ∀ topic : Element, topic.kind = .topic → ∃ found,
    (Inquiry.isPerson topic).run u.index.index = .ok found ∧
      (found = true ↔ ∃ spelled, u.GivesType topic.id spelled ∧
        (lastWords spelled = ["people", "person"] ∨ lastWords spelled = ["people-person"]))

theorem InOrder.knowsByLastWords (h : u.InOrder) : u.KnowsByLastWords := by
  have hindex : u.index.index = u.index.store.triples.index :=
    Database.index_eq_of_needRows h.tables.rows
  refine ⟨fun _ _ => h.mem_types, fun name => ?_, fun topic htopic => ?_⟩
  · refine ⟨u.index.store.triples.subjectsOf Field.type (reduceType name), fun subject => ?_, ?_,
      fun language hnone => ?_⟩
    · rw [TripleSet.mem_subjectsOf, h.mem_types]
      exact exists_congr fun spelled => and_congr_right fun _ => reduceType_eq_iff
    · rw [hindex]
      rfl
    · have hempty : (u.index.store.triples.subjectsOf Field.label
          (language.mark (reduceType name))).isEmpty = true :=
        SortedSet.isEmpty_iff.mpr fun subject hsubject =>
          hnone subject (TripleSet.mem_subjectsOf.mp hsubject)
      rw [hindex, TripleSet.index_topics, TripleSet.candidates, if_pos hempty]
  · rw [hindex]
    refine ⟨_, Engine.run_isPerson htopic, ?_⟩
    simp only [decide_eq_true_eq]
    unfold TripleSet.IsPerson TripleSet.HasValue
    constructor
    · rintro ⟨type, htype, hshown⟩
      obtain ⟨name, hgiven, rfl⟩ := h.mem_types.mp htype
      exact ⟨name, hgiven, shownObject_reduceType_eq_personType_iff.mp hshown⟩
    · rintro ⟨name, hgiven, hlast⟩
      exact ⟨_, h.mem_types.mpr ⟨name, hgiven, rfl⟩,
        shownObject_reduceType_eq_personType_iff.mpr hlast⟩

/-- **A type is known by its last two words.**  What is left of a name are the last two of its words,
or the only one, with a space in between, and reducing it again changes nothing.  What stands in front
of two words makes no difference, and neither does what separates them: two names are reduced to one
exactly if they have the same last words.  So in an index that is made of dumps all spellings of a
type are stored and found as one type. -/
theorem type_known_by_last_words (a b : String) :
    (reduceType a = unwords (lastWords a) ∧ (lastWords a).length ≤ 2 ∧
      ∀ w ∈ lastWords a, IsNameWord w) ∧
    reduceType (reduceType a) = reduceType a ∧
    (2 ≤ (nameWords b).length → ∀ c, separatesWords c = true →
      reduceType (a ++ String.singleton c ++ b) = reduceType b) ∧
    (∀ c, separatesWords c = true →
      reduceType (join (String.singleton c) (nameWords b)) = reduceType b) ∧
    (reduceType a = reduceType b ↔ lastWords a = lastWords b) ∧
    ∀ path d u, Migration.setUp .empty = (.ok (), d) →
      History path (start d) u → u.KnowsByLastWords := by
  refine ⟨⟨reduceType_eq a, length_lastWords_le a, fun w hw => isNameWord_of_mem_lastWords hw⟩,
    reduceType_reduceType a, fun hb c hc => ?_, fun c hc => ?_, reduceType_eq_iff,
    fun path d u made history => ?_⟩
  · exact reduceType_eq_iff.mpr (lastWords_append hb hc a)
  · exact reduceType_eq_iff.mpr (lastWords_join hc b)
  · have hu : u.InOrder := history.inOrder (inOrder_start made)
    exact hu.knowsByLastWords

/-! ### Persons, spelled in several ways -/

/-- The type of persons with dots, with underscores, reduced already, and with more in front. -/
def personLines : List String :=
  ["<m.1> <type> <people.person> .", "m.2 type people_person", "m.3 type people person",
    "m.4 type base.people.person"]

/-- A dump of these lines, as it is read. -/
def personsReading : Reading where
  dump := ⟨"b.nt", fileName "./b.nt", octets (String.join (personLines.map (· ++ "\n")))⟩
  options := {}

/-- The index that is made of it. -/
def withPersons : Upkeep where
  index := (Database.ingest {} 1 personsReading.dump Migration.fresh).2
  readings := [personsReading]
  now := 2

theorem history_withPersons : History "./f.db" (start Migration.fresh) withPersons := by
  have htaken : (Database.ingest {} 1 personsReading.dump Migration.fresh).1 = .ok ⟨4, 4, 0⟩ := by
    decide +kernel
  exact History.start.step (step_of_ingest (FileTree.holds_beside _) (Nat.zero_le 1)
    (FileTree.read_beside personsReading.dump.octets) htaken)

theorem readLines_personsReading : personsReading.dump.readLines = .ok personLines := by
  decide +kernel

theorem givesType_withPersons (line : String) {subject name : String} (hline : line ∈ personLines)
    (hscan : scan 512 line = some ⟨subject, Field.type, reduceType name⟩)
    (hname : name = String.ofList (objectText 512 line)) : withPersons.GivesType subject name :=
  ⟨personsReading, List.mem_singleton.mpr rfl, line, _,
    ⟨⟨_, readLines_personsReading, hline⟩, hscan, rfl⟩, rfl, rfl, hname⟩

theorem type_known_by_last_words_person :
    2 ≤ (nameWords "people_person").length ∧ separatesWords '\u00a0' = true ∧
      reduceType ("film.base" ++ String.singleton '\u00a0' ++ "people_person") = "people person" ∧
      History "./f.db" (start Migration.fresh) withPersons ∧
      (∃ subjects, withPersons.index.index.property ⟨Field.type, "people person", .object⟩ =
        nonEmpty subjects ∧ ∀ subject ∈ ["m.1", "m.2", "m.3", "m.4"], subject ∈ subjects) ∧
      (Inquiry.isPerson ⟨.topic, "m.2", by decide⟩).run withPersons.index.index = .ok true := by
  have hwords : 2 ≤ (nameWords "people_person").length := by decide
  have hblank : separatesWords '\u00a0' = true := by decide
  have hreduced : reduceType "people_person" = "people person" := by decide
  have hdotted : withPersons.GivesType "m.1" "people.person" :=
    givesType_withPersons "<m.1> <type> <people.person> ." (by decide) (by decide +kernel)
      (by decide +kernel)
  have hunderscored : withPersons.GivesType "m.2" "people_person" :=
    givesType_withPersons "m.2 type people_person" (by decide) (by decide +kernel)
      (by decide +kernel)
  have hspaced : withPersons.GivesType "m.3" "people person" :=
    givesType_withPersons "m.3 type people person" (by decide) (by decide +kernel)
      (by decide +kernel)
  have hlonger : withPersons.GivesType "m.4" "base.people.person" :=
    givesType_withPersons "m.4 type base.people.person" (by decide) (by decide +kernel)
      (by decide +kernel)
  obtain ⟨_, _, hfront, _, _, hknown⟩ := type_known_by_last_words "film.base" "people_person"
  obtain ⟨_, hanchored, hpersons⟩ := hknown _ _ _ Migration.setUp_empty history_withPersons
  obtain ⟨subjects, hsubjects, hfound, _⟩ := hanchored "people_person"
  rw [hreduced] at hfound
  obtain ⟨found, hrun, hiff⟩ := hpersons ⟨.topic, "m.2", by decide⟩ rfl
  have hperson : found = true := hiff.mpr ⟨_, hunderscored, .inl (by decide)⟩
  refine ⟨hwords, hblank, ?_, history_withPersons, ⟨subjects, hfound, ?_⟩, ?_⟩
  · rw [hfront hwords _ hblank, hreduced]
  · simp only [List.forall_mem_cons, hsubjects]
    exact ⟨⟨_, hdotted, by decide⟩, ⟨_, hunderscored, rfl⟩, ⟨_, hspaced, by decide⟩,
      ⟨_, hlonger, by decide⟩, fun _ h => by cases h⟩
  · rw [hrun, hperson]

end Upkeep

end GraphAnswers
