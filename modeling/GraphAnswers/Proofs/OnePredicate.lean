import GraphAnswers.Engine
import GraphAnswers.Proofs.Lookups
import GraphAnswers.Proofs.SortedMap
import Mathlib.Data.List.Basic
/-!
# Questions about one predicate

Three forms of questions ask for one predicate of each candidate: for its types, for its birthplace,
or for what a term stands for.  What they give is told by the triples (`Engine.onePredicate_exact`).
The walk goes over the candidates in order; after each step the results are those of the candidates
passed so far (`Engine.Found`), unless one of them had a value that is no identifier.
-/
namespace GraphAnswers

/-- What a template asks that asks for one predicate of each candidate. -/
structure OnePredicate where
  /-- The kind of the values. -/
  kind : ElementKind
  field : String
  filter : PersonFilter
  anchor : String
  deriving DecidableEq, Repr

/-- What a template asks, if it asks for one predicate and its term is registered. -/
def Template.onePredicate? (catalog : Catalog) : Template → Option OnePredicate
  | .typeOf anchor filter => some ⟨.type, Field.type, filter, anchor⟩
  | .birthplace anchor => some ⟨.topic, Field.birthplace, .persons, anchor⟩
  | .property term anchor =>
    (catalog.entries.find? term).map fun entry => ⟨.topic, entry.predicate, .nonPersons, anchor⟩
  | .starring _ _ => none
  | .quantity _ _ => none

/-- Whether a filter lets a subject pass. -/
def TripleSet.Passes (triples : TripleSet) (filter : PersonFilter) (subject : String) : Prop :=
  match filter with
  | .any => True
  | .persons => triples.IsPerson subject
  | .nonPersons => ¬triples.IsPerson subject

/-- Whether an identifier that the kind of its place does not admit stands in the way: that of a
candidate, or that of a value of a candidate that passes. -/
def OnePredicate.Malformed (asked : OnePredicate) (triples : TripleSet) (language : Language) :
    Prop :=
  ∃ subject, triples.IsCandidate language asked.anchor subject ∧
    (ElementKind.topic.admits subject = false ∨
      (triples.Passes asked.filter subject ∧
        ∃ value, triples.HasValue asked.field subject value ∧ asked.kind.admits value = false))

/-- Whether a subject is one that the answer is about. -/
def OnePredicate.IsAnswered (asked : OnePredicate) (triples : TripleSet) (language : Language)
    (subject : String) : Prop :=
  triples.IsCandidate language asked.anchor subject ∧ triples.Passes asked.filter subject ∧
    ∃ value, triples.HasValue asked.field subject value

/-- **What the results have to be**: the subjects of the answer, each with all of its values. -/
structure OnePredicate.Answers (asked : OnePredicate) (triples : TripleSet) (language : Language)
    (results : ResultMap) : Prop where
  topics : ∀ e ∈ results.anchors, e.kind = .topic
  anchors : ∀ subject, (∃ e ∈ results.anchors, e.id = subject) ↔
    asked.IsAnswered triples language subject
  nonempty : ∀ e values, results.find? e = some values → ∃ v, v ∈ values
  kinds : ∀ e values, results.find? e = some values → ∀ v ∈ values, v.kind = asked.kind
  values : ∀ e values, results.find? e = some values →
    ∀ value, (∃ v ∈ values, v.id = value) ↔ triples.HasValue asked.field e.id value

/-- **What the outcome has to be**, in each of the cases that the triples decide. -/
structure OnePredicate.Decides (asked : OnePredicate) (triples : TripleSet) (language : Language)
    (outcome : Except Failure ResultMap) : Prop where
  malformed : asked.Malformed triples language →
    ∃ detail, outcome = .error (.invalidIdentifier detail)
  answered : ¬asked.Malformed triples language →
    (∃ subject, asked.IsAnswered triples language subject) →
    ∃ results, outcome = .ok results ∧ asked.Answers triples language results
  rejected : ¬asked.Malformed triples language →
    (¬∃ subject, asked.IsAnswered triples language subject) →
    (∃ subject, triples.IsCandidate language asked.anchor subject ∧
      ¬triples.Passes asked.filter subject) →
    outcome = .error (.wrongInputType asked.filter.rejection)
  notFound : ¬asked.Malformed triples language →
    (¬∃ subject, asked.IsAnswered triples language subject) →
    (∀ subject, triples.IsCandidate language asked.anchor subject →
      triples.Passes asked.filter subject) →
    outcome = .error .notFound

theorem OnePredicate.Decides.of_malformed {asked : OnePredicate} {triples : TripleSet}
    {language : Language} {outcome : Except Failure ResultMap} {detail : String}
    (h : asked.Malformed triples language) (ho : outcome = .error (.invalidIdentifier detail)) :
    asked.Decides triples language outcome where
  malformed _ := ⟨detail, ho⟩
  answered hgood := absurd h hgood
  rejected hgood := absurd h hgood
  notFound hgood := absurd h hgood

namespace Inquiry

variable {α β : Type}

/-- Carrying out a walk is walking along what is carried out. -/
theorem run_foldlM (index : Index) (f : β → α → Inquiry β) (l : List α) (b : β) :
    (l.foldlM f b).run index = l.foldlM (fun b a => (f b a).run index) b := by
  induction l generalizing b with
  | nil => rfl
  | cons a l ih =>
    rw [List.foldlM_cons, List.foldlM_cons, run_bind]
    exact congrArg _ (funext fun b => ih b)

theorem run_ifFound (index : Index) (x : Inquiry α) :
    x.ifFound.run index = match x.run index with
      | .ok a => .ok (some a)
      | .error .notFound => .ok none
      | .error failure => .error failure := by
  unfold ifFound
  rw [run_continueWith]
  cases x.run index with
  | ok a => rfl
  | error failure => cases failure <;> rfl

end Inquiry

namespace ResultMap

/-- Values are added to those that are there. -/
theorem find?_insert (m : ResultMap) {values : SortedSet Element} (h : ∃ v, v ∈ values)
    (anchor other : Element) : (m.insert anchor values).1.find? other =
      if other = anchor then some ((m.find? anchor).elim values (·.union values))
      else m.find? other := by
  unfold insert find?
  rw [SortedSet.isEmpty_eq_false_iff.mpr h]
  exact SortedMap.find?_insertWith _ _ _ _ _

theorem isEmpty_iff {m : ResultMap} : m.isEmpty = true ↔ ∀ anchor, m.find? anchor = none :=
  SortedMap.isEmpty_iff

theorem mem_anchors {m : ResultMap} {anchor : Element} :
    anchor ∈ m.anchors ↔ ∃ values, m.find? anchor = some values :=
  SortedMap.mem_keys_iff

end ResultMap

namespace Engine

variable {triples : TripleSet}

/-! ### One candidate -/

open Classical in
theorem run_isPerson {e : Element} (he : e.kind = .topic) :
    (Inquiry.isPerson e).run triples.index = .ok (decide (triples.IsPerson e.id)) := by
  unfold Inquiry.isPerson
  have htopic : e.isTopic = true := by simp [Element.isTopic, he]
  rw [if_pos htopic, Inquiry.run_bind, Inquiry.run_ifFound, Inquiry.run_values,
    TripleSet.index_property]
  unfold nonEmpty TripleSet.IsPerson
  rw [← TripleSet.mem_objectsOf]
  by_cases h : (triples.objectsOf Field.type e.id).isEmpty = true
  · rw [if_pos h]
    have hnone := SortedSet.isEmpty_iff.mp h personType
    simp [Except.bind, hnone]
  · rw [if_neg h]
    simp [Except.bind, SortedSet.contains]

open Classical in
/-- The filter is asked about the subject of a candidate. -/
theorem run_accepts {e : Element} (he : e.kind = .topic) (filter : PersonFilter) :
    (accepts filter e).run triples.index = .ok (decide (triples.Passes filter e.id)) := by
  unfold accepts TripleSet.Passes
  cases filter with
  | any => simp
  | persons =>
    rw [Inquiry.run_bind, run_isPerson he]
    simp [Except.bind, PersonFilter.accepts]
  | nonPersons =>
    rw [Inquiry.run_bind, run_isPerson he]
    simp [Except.bind, PersonFilter.accepts]

theorem run_related (kind : ElementKind) (field : String) (e : Element) :
    (Inquiry.related kind field e).ifFound.run triples.index =
      if (triples.objectsOf field e.id).isEmpty then .ok none
      else (Element.ofIds kind (triples.objectsOf field e.id)).map some := by
  rw [Inquiry.run_ifFound]
  unfold Inquiry.related Inquiry.elements
  rw [Inquiry.run_bind, Inquiry.run_values, TripleSet.index_property, nonEmpty]
  by_cases h : (triples.objectsOf field e.id).isEmpty = true
  · rw [if_pos h, if_pos h]
    rfl
  · rw [if_neg h, if_neg h]
    simp only [Except.bind, Inquiry.ofExcept, Inquiry.run_done]
    by_cases hall : ∀ id ∈ triples.objectsOf field e.id, kind.admits id = true
    · obtain ⟨elements, helements, _⟩ := Element.ofIds_ok hall
      rw [helements]
      rfl
    · push Not at hall
      obtain ⟨id, hid, hbad⟩ := hall
      obtain ⟨detail, hdetail⟩ := Element.ofIds_error hid (by simpa using hbad)
      rw [hdetail]
      rfl

/-! ### The walk over the candidates -/

/-- **What has been found** when these candidates have been passed. -/
structure Found (triples : TripleSet) (kind : ElementKind) (field : String) (filter : PersonFilter)
    (passed : List Element) (c : Collected) : Prop where
  rejected : c.rejected = true ↔ ∃ e ∈ passed, ¬triples.Passes filter e.id
  anchors : ∀ e, (∃ values, c.results.find? e = some values) ↔
    e ∈ passed ∧ triples.Passes filter e.id ∧ ∃ value, triples.HasValue field e.id value
  nonempty : ∀ e values, c.results.find? e = some values → ∃ v, v ∈ values
  values : ∀ e values, c.results.find? e = some values →
    ∀ v : Element, v ∈ values ↔ v.kind = kind ∧ triples.HasValue field e.id v.id

variable {kind : ElementKind} {field : String} {filter : PersonFilter} {passed : List Element}
  {c : Collected} {e : Element}

theorem found_nil : Found triples kind field filter [] {} := by
  refine ⟨by simp, fun e => ?_, fun e values h => ?_, fun e values h => ?_⟩
  · constructor
    · rintro ⟨values, h⟩
      cases h
    · rintro ⟨h, _⟩
      cases h
  · cases h
  · cases h

theorem Found.reject (h : Found triples kind field filter passed c)
    (hpass : ¬triples.Passes filter e.id) :
    Found triples kind field filter (passed ++ [e]) { c with rejected := true } := by
  refine ⟨?_, fun e' => ?_, h.nonempty, h.values⟩
  · simp only [true_iff]
    exact ⟨e, by simp, hpass⟩
  · rw [h.anchors, List.mem_append, List.mem_singleton]
    constructor
    · exact fun ⟨hm, hrest⟩ => ⟨.inl hm, hrest⟩
    · rintro ⟨hm | rfl, hp, hv⟩
      · exact ⟨hm, hp, hv⟩
      · exact absurd hp hpass

/-- A candidate that passes is not counted as rejected. -/
theorem Found.rejected_iff (h : Found triples kind field filter passed c)
    (hpass : triples.Passes filter e.id) :
    c.rejected = true ↔ ∃ e' ∈ passed ++ [e], ¬triples.Passes filter e'.id := by
  rw [h.rejected]
  simp [or_and_right, exists_or, hpass]

theorem Found.skip (h : Found triples kind field filter passed c)
    (hpass : triples.Passes filter e.id) (hnone : ∀ value, ¬triples.HasValue field e.id value) :
    Found triples kind field filter (passed ++ [e]) c := by
  refine ⟨h.rejected_iff hpass, fun e' => ?_, h.nonempty, h.values⟩
  rw [h.anchors, List.mem_append, List.mem_singleton]
  constructor
  · exact fun ⟨hm, hrest⟩ => ⟨.inl hm, hrest⟩
  · rintro ⟨hm | rfl, hp, value, hv⟩
    · exact ⟨hm, hp, value, hv⟩
    · exact absurd hv (hnone value)

theorem Found.insert (h : Found triples kind field filter passed c)
    (hpass : triples.Passes filter e.id) {found : SortedSet Element} (hsome : ∃ v, v ∈ found)
    (hmem : ∀ v : Element, v ∈ found ↔ v.kind = kind ∧ triples.HasValue field e.id v.id) :
    Found triples kind field filter (passed ++ [e])
      { c with results := (c.results.insert e found).1 } := by
  -- what was found for the candidate before, if anything, are the same values
  have hnew : ∀ values, (c.results.insert e found).1.find? e = some values →
      ∀ v, v ∈ values ↔ v ∈ found := by
    intro values hfind v
    rw [ResultMap.find?_insert _ hsome, if_pos rfl] at hfind
    cases hold : c.results.find? e with
    | none =>
      rw [hold] at hfind
      cases hfind
      rfl
    | some old =>
      rw [hold] at hfind
      cases hfind
      rw [Option.elim_some, SortedSet.mem_union, h.values e old hold, hmem, or_self]
  refine ⟨h.rejected_iff hpass, fun e' => ?_, fun e' values hfind => ?_, fun e' values hfind => ?_⟩
  · rw [List.mem_append, List.mem_singleton]
    by_cases he : e' = e
    · subst he
      rw [ResultMap.find?_insert _ hsome, if_pos rfl]
      obtain ⟨v, hv⟩ := hsome
      exact ⟨fun _ => ⟨.inr rfl, hpass, v.id, ((hmem v).mp hv).2⟩, fun _ => ⟨_, rfl⟩⟩
    · rw [ResultMap.find?_insert _ hsome, if_neg he, h.anchors]
      simp [he]
  · by_cases he : e' = e
    · subst he
      obtain ⟨v, hv⟩ := hsome
      exact ⟨v, (hnew values hfind v).mpr hv⟩
    · rw [ResultMap.find?_insert _ hsome, if_neg he] at hfind
      exact h.nonempty e' values hfind
  · by_cases he : e' = e
    · subst he
      exact fun v => (hnew values hfind v).trans (hmem v)
    · rw [ResultMap.find?_insert _ hsome, if_neg he] at hfind
      exact h.values e' values hfind

/-- One step, if the candidate does not pass or each of its values is an identifier. -/
theorem Found.step (h : Found triples kind field filter passed c) (he : e.kind = .topic)
    (hgood : triples.Passes filter e.id →
      ∀ value, triples.HasValue field e.id value → kind.admits value = true) :
    ∃ c', (collectOne kind field filter c e).run triples.index = .ok c' ∧
      Found triples kind field filter (passed ++ [e]) c' := by
  classical
  unfold collectOne
  rw [Inquiry.run_bind, run_accepts he]
  by_cases hpass : triples.Passes filter e.id
  · simp only [hpass, decide_true, Except.bind, if_true, Inquiry.run_bind, run_related]
    by_cases hempty : (triples.objectsOf field e.id).isEmpty = true
    · rw [if_pos hempty]
      exact ⟨c, rfl, h.skip hpass fun value hv =>
        SortedSet.isEmpty_iff.mp hempty value (TripleSet.mem_objectsOf.mpr hv)⟩
    · rw [if_neg hempty]
      obtain ⟨found, hfound, hmem⟩ := Element.ofIds_ok fun id hid =>
        hgood hpass id (TripleSet.mem_objectsOf.mp hid)
      simp only [TripleSet.mem_objectsOf] at hmem
      obtain ⟨value, hvalue⟩ := SortedSet.isEmpty_eq_false_iff.mp (by simpa using hempty)
      have hv := TripleSet.mem_objectsOf.mp hvalue
      rw [hfound]
      exact ⟨_, rfl, h.insert hpass ⟨⟨kind, value, hgood hpass value hv⟩, (hmem _).mpr ⟨rfl, hv⟩⟩
        hmem⟩
  · simp only [hpass, decide_false, Except.bind]
    exact ⟨_, rfl, h.reject hpass⟩

/-- One step, if the candidate passes and one of its values is no identifier. -/
theorem run_collectOne_error (he : e.kind = .topic) (hpass : triples.Passes filter e.id)
    {value : String} (hvalue : triples.HasValue field e.id value)
    (hbad : kind.admits value = false) : ∃ detail,
      (collectOne kind field filter c e).run triples.index =
        .error (.invalidIdentifier detail) := by
  classical
  have hmem := TripleSet.mem_objectsOf.mpr hvalue
  have hempty := SortedSet.isEmpty_eq_false_iff.mpr ⟨value, hmem⟩
  obtain ⟨detail, hdetail⟩ := Element.ofIds_error hmem hbad
  refine ⟨detail, ?_⟩
  unfold collectOne
  rw [Inquiry.run_bind, run_accepts he]
  simp only [hpass, decide_true, Except.bind, if_true, Inquiry.run_bind, run_related, hempty,
    hdetail]
  rfl

/-- Whether a candidate passes and has a value that is no identifier of the kind. -/
def Stuck (triples : TripleSet) (kind : ElementKind) (field : String) (filter : PersonFilter)
    (e : Element) : Prop :=
  triples.Passes filter e.id ∧
    ∃ value, triples.HasValue field e.id value ∧ kind.admits value = false

/-- The walk gets to its end, or one of the candidates stops it. -/
theorem Found.walk (h : Found triples kind field filter passed c) {rest : List Element}
    (hkind : ∀ e ∈ rest, e.kind = .topic) :
    (∃ c', (rest.foldlM (collectOne kind field filter) c).run triples.index = .ok c' ∧
      Found triples kind field filter (passed ++ rest) c' ∧
      ∀ e ∈ rest, ¬Stuck triples kind field filter e) ∨
    (∃ detail, (rest.foldlM (collectOne kind field filter) c).run triples.index =
        .error (.invalidIdentifier detail) ∧
      ∃ e ∈ rest, Stuck triples kind field filter e) := by
  simp only [Inquiry.run_foldlM]
  induction rest generalizing passed c with
  | nil => exact .inl ⟨c, rfl, by rwa [List.append_nil], fun e he => by cases he⟩
  | cons e rest ih =>
    have he := hkind e List.mem_cons_self
    rw [List.foldlM_cons]
    -- the first candidate that is stuck ends the walk
    by_cases hstuck : Stuck triples kind field filter e
    · obtain ⟨hpass, value, hvalue, hbad⟩ := hstuck
      obtain ⟨detail, hdetail⟩ := run_collectOne_error (c := c) he hpass hvalue hbad
      rw [hdetail]
      exact .inr ⟨detail, rfl, e, List.mem_cons_self, hpass, value, hvalue, hbad⟩
    · obtain ⟨c', hc', hfound⟩ := h.step he fun hpass value hv => by
        by_contra hbad
        exact hstuck ⟨hpass, value, hv, by simpa using hbad⟩
      rw [hc']
      rcases ih hfound fun e' he' => hkind e' (List.mem_cons_of_mem _ he') with
        ⟨last, hlast, hall, hnot⟩ | ⟨detail, hdetail, e', he', hstuck'⟩
      · rw [List.append_assoc] at hall
        refine .inl ⟨last, hlast, hall, fun e' he' => ?_⟩
        rcases List.mem_cons.mp he' with rfl | he'
        · exact hstuck
        · exact hnot e' he'
      · exact .inr ⟨detail, hdetail, e', List.mem_cons_of_mem _ he', hstuck'⟩

/-! ### The question -/

/-- The three forms take the same course. -/
theorem run_resolve {engine : Engine} {template : Template} {asked : OnePredicate}
    (h : template.onePredicate? engine.catalog = some asked) (language : Language) (index : Index) :
    (engine.resolve language template).run index =
      (index.topics asked.anchor language).bind fun candidates =>
        (collect candidates asked.kind asked.field asked.filter).run index := by
  cases template with
  | typeOf anchor filter =>
    cases h
    unfold resolve
    rw [Inquiry.run_bind, Inquiry.run_candidates]
  | birthplace anchor =>
    cases h
    unfold resolve
    rw [Inquiry.run_bind, Inquiry.run_candidates]
  | property term anchor =>
    -- the term is looked up before anything is asked
    obtain ⟨entry, hentry, rfl⟩ := Option.map_eq_some_iff.mp h
    have hpredicate : engine.catalog.predicate term = .ok entry.predicate := by
      unfold Catalog.predicate Catalog.lookup
      rw [hentry]
      rfl
    unfold resolve
    dsimp only
    rw [hpredicate, Inquiry.run_bind]
    show ((Inquiry.candidates anchor language >>= _).run index) = _
    rw [Inquiry.run_bind, Inquiry.run_candidates]
  | starring term anchor => cases h
  | quantity count term => cases h

section Candidates

variable {asked : OnePredicate} {language : Language} {candidates : SortedSet Element}
  (hc : ∀ e : Element, e ∈ candidates ↔
    e.kind = .topic ∧ triples.IsCandidate language asked.anchor e.id)
  (hids : ∀ subject, triples.IsCandidate language asked.anchor subject →
    ElementKind.topic.admits subject = true)

include hc hids

/-- A statement about the topics that stand for the candidates is one about the candidates. -/
theorem exists_candidate_iff (p : String → Prop) : (∃ e ∈ candidates.toList, p e.id) ↔
    ∃ subject, triples.IsCandidate language asked.anchor subject ∧ p subject := by
  constructor
  · rintro ⟨e, he, hp⟩
    exact ⟨e.id, ((hc e).mp he).2, hp⟩
  · rintro ⟨subject, hcand, hp⟩
    exact ⟨⟨.topic, subject, hids subject hcand⟩, (hc _).mpr ⟨rfl, hcand⟩, hp⟩

/-- What has been found in the end is the answer. -/
theorem Found.answers {c : Collected}
    (h : Found triples asked.kind asked.field asked.filter candidates.toList c)
    (hgood : ¬asked.Malformed triples language) :
    asked.Answers triples language c.results := by
  refine
    { topics := fun e he => ?_
      anchors := fun subject => ?_
      nonempty := h.nonempty
      kinds := fun e values hfind v hv => ((h.values e values hfind v).mp hv).1
      values := fun e values hfind value => ?_ }
  · obtain ⟨hm, _⟩ := (h.anchors e).mp (ResultMap.mem_anchors.mp he)
    exact ((hc e).mp hm).1
  · simp only [ResultMap.mem_anchors, h.anchors]
    constructor
    · rintro ⟨e, ⟨hm, hpass, hvalue⟩, rfl⟩
      exact ⟨((hc e).mp hm).2, hpass, hvalue⟩
    · rintro ⟨hcand, hpass, hvalue⟩
      exact ⟨⟨.topic, subject, hids subject hcand⟩, ⟨(hc _).mpr ⟨rfl, hcand⟩, hpass, hvalue⟩, rfl⟩
  · obtain ⟨hm, hpass, _⟩ := (h.anchors e).mp ⟨values, hfind⟩
    constructor
    · rintro ⟨v, hv, rfl⟩
      exact ((h.values e values hfind v).mp hv).2
    · intro hvalue
      have hadmits : asked.kind.admits value = true := by
        by_contra hbad
        exact hgood ⟨e.id, ((hc e).mp hm).2, .inr ⟨hpass, value, hvalue, by simpa using hbad⟩⟩
      exact ⟨⟨asked.kind, value, hadmits⟩, (h.values e values hfind _).mpr ⟨rfl, hvalue⟩, rfl⟩

theorem Found.isEmpty_iff {c : Collected}
    (h : Found triples asked.kind asked.field asked.filter candidates.toList c) :
    c.results.isEmpty = true ↔ ¬∃ subject, asked.IsAnswered triples language subject := by
  unfold OnePredicate.IsAnswered
  rw [ResultMap.isEmpty_iff, ← exists_candidate_iff hc hids fun subject =>
    triples.Passes asked.filter subject ∧ ∃ value, triples.HasValue asked.field subject value]
  constructor
  · rintro hnone ⟨e, he, hanswered⟩
    obtain ⟨values, hvalues⟩ := (h.anchors e).mpr ⟨he, hanswered⟩
    rw [hnone e] at hvalues
    cases hvalues
  · intro hnone e
    cases hfind : c.results.find? e with
    | none => rfl
    | some values => exact absurd ⟨e, (h.anchors e).mp ⟨values, hfind⟩⟩ hnone

/-- What comes of topics that stand for the candidates. -/
theorem run_collect :
    asked.Decides triples language
      ((collect candidates asked.kind asked.field asked.filter).run triples.index) := by
  have hkind : ∀ e ∈ candidates.toList, e.kind = .topic := fun e he => ((hc e).mp he).1
  have hmalformed : asked.Malformed triples language ↔
      ∃ e ∈ candidates.toList, Stuck triples asked.kind asked.field asked.filter e := by
    constructor
    · rintro ⟨subject, hcand, hbad | hstuck⟩
      · rw [hids subject hcand] at hbad
        cases hbad
      · exact ⟨⟨.topic, subject, hids subject hcand⟩, (hc _).mpr ⟨rfl, hcand⟩, hstuck⟩
    · rintro ⟨e, he, hstuck⟩
      exact ⟨e.id, ((hc e).mp he).2, .inr hstuck⟩
  have houtcome : (collect candidates asked.kind asked.field asked.filter).run triples.index =
      ((candidates.toList.foldlM (collectOne asked.kind asked.field asked.filter) {}).run
        triples.index).bind fun c => c.outcome asked.filter := by
    unfold collect
    rw [Inquiry.run_bind]
    rfl
  rw [houtcome]
  have hstart : Found triples asked.kind asked.field asked.filter [] {} := found_nil
  rcases hstart.walk hkind with
    ⟨c, hrun, hfound, hnot⟩ | ⟨detail, hrun, e, he, hstuck⟩
  · rw [hrun]
    have hempty := hfound.isEmpty_iff hc hids
    have hrejected := hfound.rejected.trans
      (exists_candidate_iff hc hids fun subject => ¬triples.Passes asked.filter subject)
    refine
      { malformed := fun hbad => ?_
        answered := fun hgood hsome => ?_
        rejected := fun _ hnone hrej => ?_
        notFound := fun _ hnone hall => ?_ }
    · obtain ⟨e, he, hstuck⟩ := hmalformed.mp hbad
      exact absurd hstuck (hnot e he)
    · have hsome' : c.results.isEmpty = false := by
        rw [← Bool.not_eq_true, hempty]
        exact fun h => h hsome
      refine ⟨c.results, ?_, hfound.answers hc hids hgood⟩
      simp [Except.bind, Collected.outcome, hsome']
    · simp [Except.bind, Collected.outcome, hempty.mpr hnone, hrejected.mpr hrej]
    · have hnone' : c.rejected = false := by
        rw [← Bool.not_eq_true, hrejected]
        rintro ⟨subject, hcand, hnot⟩
        exact hnot (hall subject hcand)
      simp [Except.bind, Collected.outcome, hempty.mpr hnone, hnone']
  · rw [hrun]
    exact .of_malformed (hmalformed.mpr ⟨e, he, hstuck⟩) rfl

end Candidates

/-- **Questions about one predicate are answered soundly and completely.**  An identifier that is
not admitted fails them.  Otherwise there are results exactly when a candidate passes and has a
value, and they are those of all such candidates; if there are none, the failure tells whether the
filter rejected a candidate. -/
theorem onePredicate_exact (triples : TripleSet) (engine : Engine) (language : Language)
    {question : String} {template : Template} {asked : OnePredicate}
    (htemplate : Question.template question = .ok template)
    (hasked : template.onePredicate? engine.catalog = some asked) :
    asked.Decides triples language ((engine.queryIn language question).run triples.index) := by
  have houtcome : (engine.queryIn language question).run triples.index =
      ((nonEmpty (triples.candidates language asked.anchor)).bind (Element.ofIds .topic)).bind
        fun candidates =>
          (collect candidates asked.kind asked.field asked.filter).run triples.index := by
    unfold queryIn
    rw [Inquiry.run_bind, htemplate]
    exact run_resolve hasked language triples.index
  have hmem (subject : String) : subject ∈ triples.candidates language asked.anchor ↔
      triples.IsCandidate language asked.anchor subject := TripleSet.mem_candidates
  unfold nonEmpty at houtcome
  by_cases hempty : (triples.candidates language asked.anchor).isEmpty = true
  · -- without candidates nothing is found
    have hnone : ∀ subject, ¬triples.IsCandidate language asked.anchor subject :=
      fun subject hs => SortedSet.isEmpty_iff.mp hempty subject ((hmem subject).mpr hs)
    rw [if_pos hempty] at houtcome
    rw [houtcome]
    refine
      { malformed := fun ⟨subject, hcand, _⟩ => absurd hcand (hnone subject)
        answered := fun _ ⟨subject, hcand, _⟩ => absurd hcand (hnone subject)
        rejected := fun _ _ ⟨subject, hcand, _⟩ => absurd hcand (hnone subject)
        notFound := fun _ _ _ => rfl }
  rw [houtcome, if_neg hempty]
  by_cases hids : ∀ subject, triples.IsCandidate language asked.anchor subject →
      ElementKind.topic.admits subject = true
  · obtain ⟨candidates, hcandidates, hc⟩ := Element.ofIds_ok fun id hid =>
      hids id ((hmem id).mp hid)
    simp only [hmem] at hc
    simp only [Except.bind, hcandidates]
    exact run_collect hc hids
  · push Not at hids
    obtain ⟨subject, hcand, hbad⟩ := hids
    rw [ne_eq, Bool.not_eq_true] at hbad
    obtain ⟨detail, hdetail⟩ := Element.ofIds_error ((hmem subject).mpr hcand) hbad
    simp only [Except.bind, hdetail]
    exact .of_malformed ⟨subject, hcand, .inl hbad⟩ rfl

/-- A film, its label and its type. -/
def oneFilm : TripleSet := .ofList [⟨"m.1", "label", "Jaws @en"⟩, ⟨"m.1", "type", "film film"⟩]

theorem oneFilm_answered : ∃ results,
    (queryIn {} .english "What is Jaws").run oneFilm.index = .ok results ∧
    OnePredicate.Answers ⟨.type, Field.type, .nonPersons, "Jaws"⟩ oneFilm .english results := by
  have htemplate : Question.template "What is Jaws" = .ok (.typeOf "Jaws" .nonPersons) := by
    decide +kernel
  have hdecides := onePredicate_exact oneFilm {} .english htemplate rfl
  have hmark : Language.english.mark "Jaws" = "Jaws @en" := by decide
  have hshown : shownObject "film film" = "film film" := by decide
  have hperson : ¬oneFilm.IsPerson "m.1" := by
    rintro ⟨object, hmem, hobject⟩
    obtain rfl : object = "film film" := by
      simpa [oneFilm, Field.type] using hmem
    rw [hshown] at hobject
    exact absurd hobject (by decide)
  have hlabel : oneFilm.IsCandidate .english "Jaws" "m.1" :=
    .inl (by rw [hmark]; simp [oneFilm, Field.label])
  refine hdecides.answered ?_ ⟨"m.1", hlabel, hperson, "film film", "film film", ?_, hshown⟩
  · rintro ⟨subject, hcand, hbad⟩
    have hsubject : subject = "m.1" := by
      rcases hcand with hmem | ⟨_, hmem⟩
      · rw [hmark] at hmem
        simpa [oneFilm, Field.label] using hmem
      · simp [oneFilm, Field.type] at hmem
    subst hsubject
    rcases hbad with hbad | ⟨_, value, ⟨object, hmem, rfl⟩, hbad⟩
    · exact absurd hbad (by decide)
    · obtain rfl : object = "film film" := by
        simpa [oneFilm, Field.type] using hmem
      rw [hshown] at hbad
      exact absurd hbad (by decide)
  · simp [oneFilm, Field.type]

end Engine

end GraphAnswers
