import GraphAnswers.Proofs.OnePredicate
/-!
# Who is it, and what is it

"Who is X" and "What is X" ask for the types of the same candidates; the one lets persons pass, the
other everything else.  So their results have no anchor in common, and together they are the types
of every candidate that has a type (`Engine.who_what_split`).  The two do not fail alike.  A person
has a type, that of a person, so a person who is asked about is always told; anything else may have
no type, and is then passed over in silence.
-/
namespace GraphAnswers

/-- The results of a question; one that fails has none. -/
def ResultMap.ofOutcome : Except Failure ResultMap → ResultMap
  | .ok results => results
  | .error _ => .empty

/-- Whether an element is a topic that an anchor stands for, and these are its types, of which there
are some. -/
structure TripleSet.TellsTypes (triples : TripleSet) (language : Language) (anchor : String)
    (e : Element) (types : SortedSet Element) : Prop where
  topic : e.kind = .topic
  candidate : triples.IsCandidate language anchor e.id
  nonempty : ∃ type, type ∈ types
  types : ∀ type : Element, type ∈ types ↔
    type.kind = .type ∧ triples.HasValue Field.type e.id type.id

namespace OnePredicate

variable {asked : OnePredicate} {triples : TripleSet} {language : Language} {results : ResultMap}
  {outcome : Except Failure ResultMap} {e : Element} {values : SortedSet Element}

/-! ### The results as a map -/

/-- **What the results have to tell of an element**: all of its values, if it is one that the answer
is about. -/
structure Tells (asked : OnePredicate) (triples : TripleSet) (language : Language) (e : Element)
    (values : SortedSet Element) : Prop where
  topic : e.kind = .topic
  answered : asked.IsAnswered triples language e.id
  values : ∀ v : Element, v ∈ values ↔ v.kind = asked.kind ∧ triples.HasValue asked.field e.id v.id

theorem Answers.tells (h : asked.Answers triples language results)
    (hfind : results.find? e = some values) : asked.Tells triples language e values := by
  have hanchor : e ∈ results.anchors := ResultMap.mem_anchors.mpr ⟨values, hfind⟩
  refine ⟨h.topics e hanchor, (h.anchors e.id).mp ⟨e, hanchor, rfl⟩, fun v => ?_⟩
  constructor
  · intro hv
    exact ⟨h.kinds e values hfind v hv, (h.values e values hfind v.id).mp ⟨v, hv, rfl⟩⟩
  · rintro ⟨hkind, hvalue⟩
    obtain ⟨v', hv', hid⟩ := (h.values e values hfind v.id).mpr hvalue
    have hsame : v' = v := Element.eq_of ((h.kinds e values hfind v' hv').trans hkind.symm) hid
    exact hsame ▸ hv'

theorem Answers.find?_iff (h : asked.Answers triples language results) :
    results.find? e = some values ↔ asked.Tells triples language e values := by
  constructor
  · exact h.tells
  · intro htells
    -- the anchor with this identifier is a topic as well, so it is this element
    obtain ⟨e', he', hid⟩ := (h.anchors e.id).mpr htells.answered
    obtain rfl : e' = e := Element.eq_of ((h.topics e' he').trans htells.topic.symm) hid
    obtain ⟨found, hfound⟩ := ResultMap.mem_anchors.mp he'
    have hsame : found = values := SortedSet.ext fun v =>
      ((h.tells hfound).values v).trans (htells.values v).symm
    rw [hfound, hsame]

/-! ### What an outcome tells -/

theorem Decides.fails (h : asked.Decides triples language outcome)
    (hgood : ¬asked.Malformed triples language)
    (hnone : ¬∃ subject, asked.IsAnswered triples language subject) :
    ∃ failure, outcome = .error failure := by
  by_cases hall : ∀ subject, triples.IsCandidate language asked.anchor subject →
      triples.Passes asked.filter subject
  · exact ⟨_, h.notFound hgood hnone hall⟩
  · push Not at hall
    exact ⟨_, h.rejected hgood hnone hall⟩

theorem Decides.ok_iff (h : asked.Decides triples language outcome)
    (hgood : ¬asked.Malformed triples language) :
    (∃ results, outcome = .ok results) ↔ ∃ subject, asked.IsAnswered triples language subject := by
  constructor
  · rintro ⟨results, rfl⟩
    by_contra hnone
    obtain ⟨failure, hfailure⟩ := h.fails hgood hnone
    cases hfailure
  · intro hsome
    obtain ⟨results, houtcome, _⟩ := h.answered hgood hsome
    exact ⟨results, houtcome⟩

theorem Decides.find?_iff (h : asked.Decides triples language outcome)
    (hgood : ¬asked.Malformed triples language) :
    (ResultMap.ofOutcome outcome).find? e = some values ↔
      asked.Tells triples language e values := by
  by_cases hsome : ∃ subject, asked.IsAnswered triples language subject
  · obtain ⟨results, rfl, hanswers⟩ := h.answered hgood hsome
    exact hanswers.find?_iff
  · obtain ⟨failure, rfl⟩ := h.fails hgood hsome
    constructor
    · intro hfind
      cases hfind
    · exact fun htells => absurd ⟨e.id, htells.answered⟩ hsome

/-- Where the type of the input is found wrong, nothing was answered and a candidate was rejected. -/
theorem Decides.of_wrongInputType (h : asked.Decides triples language outcome)
    (hgood : ¬asked.Malformed triples language) {detail : String}
    (houtcome : outcome = .error (.wrongInputType detail)) :
    (¬∃ subject, asked.IsAnswered triples language subject) ∧
      ∃ subject, triples.IsCandidate language asked.anchor subject ∧
        ¬triples.Passes asked.filter subject := by
  have hnone : ¬∃ subject, asked.IsAnswered triples language subject := by
    intro hsome
    obtain ⟨results, hok, _⟩ := h.answered hgood hsome
    cases houtcome.symm.trans hok
  refine ⟨hnone, ?_⟩
  by_contra hall
  push Not at hall
  cases houtcome.symm.trans (h.notFound hgood hnone hall)

end OnePredicate

namespace Engine

section TypeOf

variable {triples : TripleSet} {language : Language} {anchor : String} {filter : PersonFilter}

/-- Both questions are decided by the triples, if each candidate is a topic. -/
theorem decides_typeOf (engine : Engine) (filter : PersonFilter)
    (hids : ∀ subject, triples.IsCandidate language anchor subject →
      ElementKind.topic.admits subject = true) :
    OnePredicate.Decides ⟨.type, Field.type, filter, anchor⟩ triples language
      ((engine.resolve language (.typeOf anchor filter)).run triples.index) := by
  have hasked : (Template.typeOf anchor filter).onePredicate? engine.catalog =
      some ⟨.type, Field.type, filter, anchor⟩ := rfl
  rw [run_resolve hasked, triples.index_topics, nonEmpty]
  by_cases hempty : (triples.candidates language anchor).isEmpty = true
  · have hnone (subject : String) : ¬triples.IsCandidate language anchor subject := fun hs =>
      SortedSet.isEmpty_iff.mp hempty subject (TripleSet.mem_candidates.mpr hs)
    rw [if_pos hempty]
    refine
      { malformed := ?_
        answered := ?_
        rejected := ?_
        notFound := fun _ _ _ => rfl }
    · rintro ⟨subject, hcand, _⟩
      exact absurd hcand (hnone subject)
    · rintro _ ⟨subject, hcand, _⟩
      exact absurd hcand (hnone subject)
    · rintro _ _ ⟨subject, hcand, _⟩
      exact absurd hcand (hnone subject)
  · obtain ⟨candidates, hcandidates, hc⟩ := Element.ofIds_ok fun id hid =>
      hids id (TripleSet.mem_candidates.mp hid)
    simp only [TripleSet.mem_candidates] at hc
    rw [if_neg hempty]
    simp only [Except.bind, hcandidates]
    exact run_collect hc hids

variable (hids : ∀ subject, triples.IsCandidate language anchor subject →
  ElementKind.topic.admits subject = true ∧
    ∀ type, triples.HasValue Field.type subject type → ElementKind.type.admits type = true)

include hids

theorem not_malformed_typeOf :
    ¬OnePredicate.Malformed ⟨.type, Field.type, filter, anchor⟩ triples language := by
  rintro ⟨subject, hcand, hbad | ⟨_, type, htype, hbad⟩⟩
  · rw [(hids subject hcand).1] at hbad
    cases hbad
  · rw [(hids subject hcand).2 type htype] at hbad
    cases hbad

/-- One of the two questions tells the types of a candidate, the other tells nothing of it. -/
theorem tells_typeOf_iff {e : Element} {types : SortedSet Element} :
    OnePredicate.Tells ⟨.type, Field.type, filter, anchor⟩ triples language e types ↔
      triples.TellsTypes language anchor e types ∧ triples.Passes filter e.id := by
  constructor
  · rintro ⟨htopic, ⟨hcand, hpass, type, htype⟩, htypes⟩
    have hadmits := (hids e.id hcand).2 type htype
    exact ⟨⟨htopic, hcand, ⟨⟨.type, type, hadmits⟩, (htypes _).mpr ⟨rfl, htype⟩⟩, htypes⟩, hpass⟩
  · rintro ⟨⟨htopic, hcand, ⟨type, hmem⟩, htypes⟩, hpass⟩
    exact ⟨htopic, ⟨hcand, hpass, type.id, ((htypes type).mp hmem).2⟩, htypes⟩

end TypeOf

/-- **"Who is X" and "What is X" split the candidates**, if each is a topic and its types are types.
Whoever is told by the one is not told by the other, and together they tell of every candidate that
has a type what its types are.  The one succeeds exactly when some candidate is a person, and never
do both find the input of a wrong type. -/
theorem who_what_split (triples : TripleSet) (engine : Engine) (language : Language)
    (anchor : String)
    (hids : ∀ subject, triples.IsCandidate language anchor subject →
      ElementKind.topic.admits subject = true ∧
        ∀ type, triples.HasValue Field.type subject type → ElementKind.type.admits type = true) :
    let asked (filter : PersonFilter) :=
      (engine.resolve language (.typeOf anchor filter)).run triples.index
    let who := ResultMap.ofOutcome (asked .persons)
    let what := ResultMap.ofOutcome (asked .nonPersons)
    (∀ question filter, Question.template question = .ok (.typeOf anchor filter) →
      (engine.queryIn language question).run triples.index = asked filter) ∧
    (∀ e ∈ who.anchors, e ∉ what.anchors) ∧
    (∀ e types, who.find? e = some types ∨ what.find? e = some types ↔
      triples.TellsTypes language anchor e types) ∧
    ((∃ results, asked .persons = .ok results) ↔
      ∃ subject, triples.IsCandidate language anchor subject ∧ triples.IsPerson subject) ∧
    ¬∃ detail detail', asked .persons = .error (.wrongInputType detail) ∧
      asked .nonPersons = .error (.wrongInputType detail') := by
  intro asked who what
  have hdecides (filter : PersonFilter) := decides_typeOf engine filter fun subject hcand =>
    (hids subject hcand).1
  have hgood (filter : PersonFilter) :
      ¬OnePredicate.Malformed ⟨.type, Field.type, filter, anchor⟩ triples language :=
    not_malformed_typeOf hids
  have hfind (filter : PersonFilter) (e : Element) (types : SortedSet Element) :
      (ResultMap.ofOutcome (asked filter)).find? e = some types ↔
        triples.TellsTypes language anchor e types ∧ triples.Passes filter e.id :=
    ((hdecides filter).find?_iff (hgood filter)).trans (tells_typeOf_iff hids)
  -- a person has a type: that of a person
  have hanswered {subject : String} (hcand : triples.IsCandidate language anchor subject)
      (hperson : triples.IsPerson subject) :
      OnePredicate.IsAnswered ⟨.type, Field.type, .persons, anchor⟩ triples language subject :=
    ⟨hcand, hperson, personType, hperson⟩
  refine ⟨fun question filter hquestion => ?_, fun e hwho hwhat => ?_, fun e types => ?_, ?_, ?_⟩
  · unfold queryIn
    rw [Inquiry.run_bind, hquestion]
    rfl
  · obtain ⟨types, htypes⟩ := ResultMap.mem_anchors.mp hwho
    obtain ⟨types', htypes'⟩ := ResultMap.mem_anchors.mp hwhat
    have hperson : triples.IsPerson e.id := ((hfind .persons e types).mp htypes).2
    have hother : ¬triples.IsPerson e.id := ((hfind .nonPersons e types').mp htypes').2
    exact hother hperson
  · rw [hfind, hfind, ← and_or_left]
    exact and_iff_left (Classical.em (triples.IsPerson e.id))
  · rw [(hdecides .persons).ok_iff (hgood .persons)]
    constructor
    · rintro ⟨subject, hcand, hperson, _⟩
      exact ⟨subject, hcand, hperson⟩
    · rintro ⟨subject, hcand, hperson⟩
      exact ⟨subject, hanswered hcand hperson⟩
  · rintro ⟨detail, detail', hwho, hwhat⟩
    obtain ⟨hnone, _⟩ := (hdecides .persons).of_wrongInputType (hgood .persons) hwho
    obtain ⟨_, subject, hcand, hrejected⟩ :=
      (hdecides .nonPersons).of_wrongInputType (hgood .nonPersons) hwhat
    -- whom "What is X" rejects is a person, and "Who is X" tells of a person
    have hperson : triples.IsPerson subject := not_not.mp hrejected
    exact hnone ⟨subject, hanswered hcand hperson⟩

/-- A film and a person of one name. -/
def twoBambis : TripleSet := .ofList [
  ⟨"m.1", "label", "Bambi @en"⟩, ⟨"m.1", "type", "film film"⟩,
  ⟨"m.2", "label", "Bambi @en"⟩, ⟨"m.2", "type", "people person"⟩]

theorem who_what_split_bambi :
    (∀ subject, twoBambis.IsCandidate .english "Bambi" subject →
      ElementKind.topic.admits subject = true ∧
        ∀ type, twoBambis.HasValue Field.type subject type →
          ElementKind.type.admits type = true) ∧
    ∃ results, (queryIn {} .english "Who is Bambi ?").run twoBambis.index = .ok results := by
  have hids : ∀ subject, twoBambis.IsCandidate .english "Bambi" subject →
      ElementKind.topic.admits subject = true ∧
        ∀ type, twoBambis.HasValue Field.type subject type →
          ElementKind.type.admits type = true := by
    simp only [← TripleSet.mem_candidates, ← TripleSet.mem_objectsOf, SortedSet.mem_def]
    decide
  have htemplate : Question.template "Who is Bambi ?" = .ok (.typeOf "Bambi" .persons) := by
    decide +kernel
  have hperson : twoBambis.IsCandidate .english "Bambi" "m.2" ∧ twoBambis.IsPerson "m.2" := by
    unfold TripleSet.IsPerson
    rw [← TripleSet.mem_candidates, ← TripleSet.mem_objectsOf]
    decide
  obtain ⟨hquestion, _, _, hsucceeds, _⟩ := who_what_split twoBambis {} .english "Bambi" hids
  rw [hquestion _ _ htemplate]
  exact ⟨hids, hsucceeds.mpr ⟨"m.2", hperson⟩⟩

end Engine

end GraphAnswers
