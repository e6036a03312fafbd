import GraphAnswers.Proofs.OnePredicate
/-!
# Questions that go through nodes in between

A starring question asks the candidates themselves first and, only if none of them has a value, the
nodes that the collection of the term leads to.  The two ways treat failures differently: at a
candidate a failure ends the question, on the way through the nodes it is put aside, and it is told
only if nothing is found at all (`Engine.starring_exact`).  That a look-up found nothing is no
failure on either way.  The walks are told by two things, the outcomes of the single look-ups
(`Index.topicsOf`) and the first failure among them (`Failure.first?`).
-/
namespace GraphAnswers

/-! ### The first failure -/

namespace Failure

variable {α : Type}

/-- The failure of an outcome, unless it is that nothing was found. -/
def serious? : Except Failure α → Option Failure
  | .ok _ => none
  | .error .notFound => none
  | .error failure => some failure

/-- The first failure, other than that nothing was found, among outcomes. -/
def first? (outcomes : List (Except Failure α)) : Option Failure := outcomes.findSome? serious?

theorem serious?_eq_some_iff {outcome : Except Failure α} {failure : Failure} :
    serious? outcome = some failure ↔ outcome = .error failure ∧ failure ≠ .notFound := by
  constructor
  · intro h
    cases outcome with
    | ok a => cases h
    | error other =>
      cases other with
      | notFound => cases h
      | _ =>
        cases h
        exact ⟨rfl, fun h => by cases h⟩
  · rintro ⟨rfl, hne⟩
    cases failure with
    | notFound => exact absurd rfl hne
    | _ => rfl

theorem first?_cons (outcome : Except Failure α) (outcomes : List (Except Failure α)) :
    first? (outcome :: outcomes) = (serious? outcome).or (first? outcomes) := by
  unfold first?
  rw [List.findSome?_cons]
  cases serious? outcome <;> rfl

theorem first?_append (before after : List (Except Failure α)) :
    first? (before ++ after) = (first? before).or (first? after) := by
  unfold first?
  exact List.findSome?_append

theorem of_first? {outcomes : List (Except Failure α)} {failure : Failure}
    (h : first? outcomes = some failure) : .error failure ∈ outcomes ∧ failure ≠ .notFound := by
  obtain ⟨outcome, hmem, hserious⟩ := List.exists_of_findSome?_eq_some h
  obtain ⟨rfl, hne⟩ := serious?_eq_some_iff.mp hserious
  exact ⟨hmem, hne⟩

/-- Such a failure is that of some element. -/
theorem exists_of_first?_map {β : Type} {f : β → Except Failure α} {elements : List β}
    {failure : Failure} (h : first? (elements.map f) = some failure) :
    ∃ e ∈ elements, f e = .error failure := by
  obtain ⟨hmem, _⟩ := of_first? h
  exact List.mem_map.mp hmem

/-- Where there is no such failure, every look-up found something or nothing. -/
theorem first?_eq_none_iff {outcomes : List (Except Failure α)} :
    first? outcomes = none ↔
      ∀ outcome ∈ outcomes, (∃ a, outcome = .ok a) ∨ outcome = .error .notFound := by
  unfold first?
  rw [List.findSome?_eq_none_iff]
  refine forall₂_congr fun outcome _ => ?_
  cases outcome with
  | ok a => simp [serious?]
  | error failure => cases failure <;> simp [serious?]

end Failure

/-! ### Look-ups at one element -/

namespace Index

variable (index : Index)

/-- Whether a look-up that matches nothing fails, as it has to: none succeeds with nothing. -/
def NeverEmpty : Prop := ∀ lookup found, index.property lookup = .ok found → ∃ s, s ∈ found

/-- The topics that a field relates to an element. -/
def topicsOf (field : String) (e : Element) : Except Failure (SortedSet Element) := do
  Element.ofIds .topic (← index.property ⟨field, e.id, .subject⟩)

/-- The nodes that a collection leads to from any of the candidates, as far as the look-ups for it
succeed. -/
def nodes (collection : String) (candidates : SortedSet Element) : SortedSet Element :=
  .ofList (candidates.toList.flatMap fun e =>
    match index.topicsOf collection e with
    | .ok found => found.toList
    | .error _ => [])

variable {index} {field collection : String} {e node : Element} {candidates : SortedSet Element}

theorem run_related : (Inquiry.related .topic field e).run index = index.topicsOf field e := by
  unfold Inquiry.related Inquiry.elements
  rw [Inquiry.run_bind, Inquiry.run_values]
  rfl

theorem mem_nodes : node ∈ index.nodes collection candidates ↔
    ∃ e ∈ candidates, ∃ found, index.topicsOf collection e = .ok found ∧ node ∈ found := by
  unfold nodes
  rw [SortedSet.mem_ofList, List.mem_flatMap]
  refine exists_congr fun e => and_congr_right fun _ => ?_
  cases index.topicsOf collection e with
  | ok found => simp [SortedSet.mem_def]
  | error failure => simp

/-- What is found at an element is never nothing. -/
theorem NeverEmpty.topicsOf (h : index.NeverEmpty) {found : SortedSet Element}
    (hfound : index.topicsOf field e = .ok found) : ∃ v, v ∈ found := by
  obtain ⟨ids, hids, helements⟩ := bind_ok_iff.mp hfound
  obtain ⟨id, hid⟩ := h _ ids hids
  exact Element.exists_of_ofIds helements hid

/-- A look-up at an element fails as the index does, or because of an identifier. -/
theorem of_topicsOf_error {failure : Failure} (h : index.topicsOf field e = .error failure) :
    index.property ⟨field, e.id, .subject⟩ = .error failure ∨
      ∃ detail, failure = .invalidIdentifier detail := by
  rcases bind_error_iff.mp h with h | ⟨ids, _, h⟩
  · exact .inl h
  · exact .inr (Element.of_ofIds_error h)

end Index

/-- A set of triples finds something or fails. -/
theorem TripleSet.neverEmpty_index (triples : TripleSet) : triples.index.NeverEmpty := by
  rintro ⟨field, anchor, role⟩ found hfound
  cases role with
  | subject => exact (nonEmpty_ok_iff.mp hfound).2
  | object => exact (nonEmpty_ok_iff.mp hfound).2

/-! ### Results as a table -/

namespace ResultMap

variable {m : ResultMap} {f : Element → Except Failure (SortedSet Element)} {passed : List Element}
  {e : Element} {values : SortedSet Element}

/-- **Whether results are a table of a function**: the elements for which it succeeds, each with what
it gives. -/
def Tabulates (m : ResultMap) (f : Element → Except Failure (SortedSet Element))
    (elements : List Element) : Prop :=
  ∀ e values, m.find? e = some values ↔ e ∈ elements ∧ f e = .ok values

theorem tabulates_empty : empty.Tabulates f [] := by
  intro e values
  constructor
  · intro h
    cases h
  · rintro ⟨h, _⟩
    cases h

theorem Tabulates.skip (h : m.Tabulates f passed) (he : ∀ values, f e ≠ .ok values) :
    m.Tabulates f (passed ++ [e]) := by
  intro e' values
  rw [h, List.mem_append, List.mem_singleton]
  constructor
  · exact fun ⟨hmem, hvalues⟩ => ⟨.inl hmem, hvalues⟩
  · rintro ⟨hmem | rfl, hvalues⟩
    · exact ⟨hmem, hvalues⟩
    · exact absurd hvalues (he values)

theorem Tabulates.insert (h : m.Tabulates f passed) (he : f e = .ok values)
    (hsome : ∃ v, v ∈ values) : (m.insert e values).1.Tabulates f (passed ++ [e]) := by
  -- an element that has been passed before has the same values
  have hself : (m.find? e).elim values (·.union values) = values := by
    cases hold : m.find? e with
    | none => rfl
    | some old =>
      obtain ⟨_, hvalues⟩ := (h e old).mp hold
      cases he.symm.trans hvalues
      exact SortedSet.ext fun v => by simp
  intro e' values'
  rw [find?_insert _ hsome, hself, List.mem_append, List.mem_singleton]
  by_cases hsame : e' = e
  · subst hsame
    rw [if_pos rfl, he, Option.some.injEq, Except.ok.injEq]
    exact (and_iff_right (.inr rfl)).symm
  · rw [if_neg hsame, h, or_iff_left hsame]

theorem Tabulates.isEmpty_iff (h : m.Tabulates f passed) :
    m.isEmpty = true ↔ ∀ e ∈ passed, ∀ values, f e ≠ .ok values := by
  rw [ResultMap.isEmpty_iff]
  constructor
  · intro hnone e he values hvalues
    have hfind := (h e values).mpr ⟨he, hvalues⟩
    rw [hnone e] at hfind
    cases hfind
  · intro hnone e
    cases hfind : m.find? e with
    | none => rfl
    | some values =>
      obtain ⟨he, hvalues⟩ := (h e values).mp hfind
      exact absurd hvalues (hnone e he values)

/-- Inserting what was found at one element after another makes a table of it. -/
theorem Tabulates.foldl_insert (h : m.Tabulates f passed) (elements : List Element)
    (hsome : ∀ e values, f e = .ok values → ∃ v, v ∈ values) :
    ((elements.filterMap fun e => (f e).toOption.map (Prod.mk e)).foldl
      (fun m found => (m.insert found.1 found.2).1) m).Tabulates f (passed ++ elements) := by
  induction elements generalizing m passed with
  | nil => simpa using h
  | cons e elements ih =>
    rw [List.append_cons]
    cases he : f e with
    | ok values =>
      rw [List.filterMap_cons_some (by rw [he]; rfl)]
      exact ih (h.insert he (hsome e values he))
    | error failure =>
      rw [List.filterMap_cons_none (by rw [he]; rfl)]
      exact ih (h.skip fun values hvalues => by cases he.symm.trans hvalues)

end ResultMap

namespace Engine

variable {index : Index} {field : String} {c : Collected} {e : Element} {passed : List Element}

/-! ### At the candidates themselves -/

theorem run_collectOne_any (index : Index) (field : String) (c : Collected) (e : Element) :
    (collectOne .topic field .any c e).run index =
      match index.topicsOf field e with
      | .ok values => .ok { c with results := (c.results.insert e values).1 }
      | .error .notFound => .ok c
      | .error failure => .error failure := by
  unfold collectOne accepts
  rw [Inquiry.run_bind, Inquiry.run_pure]
  show ((Inquiry.related .topic field e).ifFound >>= _).run index = _
  rw [Inquiry.run_bind, Inquiry.run_ifFound, Index.run_related]
  cases index.topicsOf field e with
  | ok values => rfl
  | error failure => cases failure <;> rfl

/-- The walk over candidates that are not filtered ends at the first failure, or gets to its end and
has a table of what was found. -/
theorem walk_any (hindex : index.NeverEmpty)
    (h : c.results.Tabulates (index.topicsOf field) passed) (hrejected : c.rejected = false)
    (rest : List Element) :
    match Failure.first? (rest.map (index.topicsOf field)) with
    | some failure =>
      (rest.foldlM (collectOne .topic field .any) c).run index = .error failure
    | none => ∃ c', (rest.foldlM (collectOne .topic field .any) c).run index = .ok c' ∧
        c'.rejected = false ∧ c'.results.Tabulates (index.topicsOf field) (passed ++ rest) := by
  simp only [Inquiry.run_foldlM]
  induction rest generalizing c passed with
  | nil => exact ⟨c, rfl, hrejected, by simpa using h⟩
  | cons e rest ih =>
    rw [List.map_cons, Failure.first?_cons, List.foldlM_cons, run_collectOne_any, List.append_cons]
    cases he : index.topicsOf field e with
    | ok values => exact ih (h.insert he (hindex.topicsOf he)) hrejected
    | error failure =>
      have hskip := h.skip fun values hvalues => by cases he.symm.trans hvalues
      cases failure with
      | notFound => exact ih hskip hrejected
      | _ => rfl

/-- What comes of the candidates themselves: their first failure, or a table of what was found. -/
theorem run_collect_any (hindex : index.NeverEmpty) (field : String)
    (candidates : SortedSet Element) :
    match Failure.first? (candidates.toList.map (index.topicsOf field)) with
    | some failure => (collect candidates .topic field .any).run index = .error failure
    | none => ∃ results : ResultMap, results.Tabulates (index.topicsOf field) candidates.toList ∧
        (collect candidates .topic field .any).run index =
          if results.isEmpty then .error .notFound else .ok results := by
  have hstart : ({} : Collected).results.Tabulates (index.topicsOf field) [] :=
    ResultMap.tabulates_empty
  have hwalk := walk_any hindex hstart rfl candidates.toList
  unfold collect
  rw [Inquiry.run_bind]
  cases hfirst : Failure.first? (candidates.toList.map (index.topicsOf field)) with
  | some failure =>
    rw [hfirst] at hwalk
    dsimp only at hwalk ⊢
    rw [hwalk]
    rfl
  | none =>
    rw [hfirst] at hwalk
    obtain ⟨c, hrun, hrejected, htable⟩ := hwalk
    refine ⟨c.results, htable, ?_⟩
    rw [hrun]
    show c.outcome .any = _
    unfold Collected.outcome
    rw [hrejected]
    cases c.results.isEmpty <;> rfl

/-! ### Through the nodes -/

/-- Outcomes that are added one after another: what was found, in order, and the first failure. -/
theorem foldl_add (f : Element → Except Failure (SortedSet Element)) (elements : List Element)
    (x : Expanded) : elements.foldl (fun x e => x.add e (f e)) x =
      { found := x.found ++ elements.filterMap fun e => (f e).toOption.map (Prod.mk e)
        firstFailure := x.firstFailure.or (Failure.first? (elements.map f)) } := by
  induction elements generalizing x with
  | nil => simp [Failure.first?]
  | cons e elements ih =>
    rw [List.foldl_cons, ih, List.map_cons, Failure.first?_cons, ← Option.or_assoc]
    cases he : f e with
    | ok values =>
      rw [List.filterMap_cons_some (by rw [he]; rfl)]
      simp [Expanded.add, Failure.serious?]
    | error failure =>
      rw [List.filterMap_cons_none (by rw [he]; rfl)]
      cases failure <;> simp [Expanded.add, Failure.serious?]

/-- Asking at one element after another never fails. -/
theorem run_expand (index : Index) (field : String) (elements : SortedSet Element)
    (start : Expanded) : (expand field elements start).run index = .ok
      { found := start.found ++
          elements.toList.filterMap fun e => (index.topicsOf field e).toOption.map (Prod.mk e)
        firstFailure :=
          start.firstFailure.or (Failure.first? (elements.toList.map (index.topicsOf field))) } := by
  have hstep (x : Expanded) (e : Element) :
      (do pure (x.add e (← (Inquiry.related .topic field e).attempt)) : Inquiry Expanded).run index =
        pure (x.add e (index.topicsOf field e)) := by
    rw [Inquiry.run_bind, Inquiry.run_attempt, Index.run_related]
    rfl
  unfold expand
  rw [Inquiry.run_foldlM]
  simp only [hstep]
  rw [List.foldlM_pure, foldl_add]
  rfl

/-- The nodes that are asked are those that the collection leads to. -/
theorem foldl_union_eq_nodes (index : Index) (collection : String)
    (candidates : SortedSet Element) :
    (candidates.toList.filterMap fun e =>
      (index.topicsOf collection e).toOption.map (Prod.mk e)).foldl
        (fun s found => s.union found.2) SortedSet.empty = index.nodes collection candidates := by
  refine SortedSet.ext fun node => ?_
  rw [SortedSet.mem_foldl_union, Index.mem_nodes, or_iff_right (SortedSet.not_mem_empty node)]
  constructor
  · rintro ⟨⟨e, found⟩, hfound, hnode⟩
    obtain ⟨e', he', hsome⟩ := List.mem_filterMap.mp hfound
    obtain ⟨found', hfound', heq⟩ := Option.map_eq_some_iff.mp hsome
    cases heq
    exact ⟨e, he', found, toOption_eq_some_iff.mp hfound', hnode⟩
  · rintro ⟨e, he, found, hfound, hnode⟩
    refine ⟨(e, found), List.mem_filterMap.mpr ⟨e, he, ?_⟩, hnode⟩
    rw [hfound]
    rfl

/-- **What comes of the nodes**: a table of what was found at them or, if that is nothing, the first
failure on the way. -/
theorem run_throughNodes (hindex : index.NeverEmpty) (candidates : SortedSet Element)
    (collection predicate : String) :
    let nodes := index.nodes collection candidates
    ∃ results : ResultMap, results.Tabulates (index.topicsOf predicate) nodes.toList ∧
      (throughNodes candidates collection predicate).run index =
        if results.isEmpty then
          .error ((Failure.first? (candidates.toList.map (index.topicsOf collection) ++
            nodes.toList.map (index.topicsOf predicate))).getD .notFound)
        else .ok results := by
  intro nodes
  have hstart : ResultMap.empty.Tabulates (index.topicsOf predicate) [] :=
    ResultMap.tabulates_empty
  have htable := hstart.foldl_insert nodes.toList fun _ _ => hindex.topicsOf
  refine ⟨_, htable, ?_⟩
  unfold throughNodes
  rw [Inquiry.run_bind, run_expand]
  simp only [Except.bind, List.nil_append, foldl_union_eq_nodes]
  rw [Inquiry.run_bind, run_expand]
  simp only [Except.bind, List.nil_append, Option.none_or, Failure.first?_append]
  rw [apply_ite (Inquiry.run index)]
  rfl

/-! ### The question -/

/-- **What a starring question has to come to**, given its candidates and the entry of its term. -/
structure FollowsEntry (index : Index) (entry : Catalog.Entry) (candidates : SortedSet Element)
    (outcome : Except Failure ResultMap) : Prop where
  /-- At a candidate itself, the first failure ends the question. -/
  failed : ∀ failure,
    Failure.first? (candidates.toList.map (index.topicsOf entry.predicate)) = some failure →
    outcome = .error failure
  /-- Without a failure there, what the candidates have is the answer, if they have anything. -/
  direct : Failure.first? (candidates.toList.map (index.topicsOf entry.predicate)) = none →
    (∃ e ∈ candidates, ∃ values, index.topicsOf entry.predicate e = .ok values) →
    ∃ results : ResultMap, outcome = .ok results ∧
      results.Tabulates (index.topicsOf entry.predicate) candidates.toList
  /-- If they have nothing, a term without a collection finds nothing. -/
  notFound : (∀ e ∈ candidates, index.topicsOf entry.predicate e = .error .notFound) →
    entry.collection = none → outcome = .error .notFound
  /-- Otherwise what the nodes have is the answer, if they have anything, whatever else fails. -/
  through : (∀ e ∈ candidates, index.topicsOf entry.predicate e = .error .notFound) →
    ∀ collection, entry.collection = some collection →
    (∃ node ∈ index.nodes collection candidates, ∃ values,
      index.topicsOf entry.predicate node = .ok values) →
    ∃ results : ResultMap, outcome = .ok results ∧
      results.Tabulates (index.topicsOf entry.predicate) (index.nodes collection candidates).toList
  /-- If they have nothing either, the first failure on the way is told. -/
  nothing : (∀ e ∈ candidates, index.topicsOf entry.predicate e = .error .notFound) →
    ∀ collection, entry.collection = some collection →
    (∀ node ∈ index.nodes collection candidates, ∀ values,
      index.topicsOf entry.predicate node ≠ .ok values) →
    outcome = .error ((Failure.first? (candidates.toList.map (index.topicsOf collection) ++
      (index.nodes collection candidates).toList.map
        (index.topicsOf entry.predicate))).getD .notFound)

theorem run_starring_of_missing {engine : Engine} {term : String}
    (h : engine.catalog.entries.find? term = none) (anchor : String) (language : Language) :
    engine.starring term anchor language = .fail (.unknownTerm term) := by
  have hlookup : engine.catalog.lookup term = .error (.unknownTerm term) := by
    unfold Catalog.lookup
    rw [h]
  unfold starring
  rw [hlookup]
  rfl

theorem lookup_of_find? {catalog : Catalog} {term : String} {entry : Catalog.Entry}
    (h : catalog.entries.find? term = some entry) : catalog.lookup term = .ok entry := by
  unfold Catalog.lookup
  rw [h]

theorem run_starring_of_failure {engine : Engine} {term anchor : String} {language : Language}
    {entry : Catalog.Entry} {failure : Failure}
    (hentry : engine.catalog.entries.find? term = some entry)
    (htopics : index.topics anchor language = .error failure) :
    (engine.starring term anchor language).run index = .error failure := by
  unfold starring
  rw [lookup_of_find? hentry]
  show ((Inquiry.candidates anchor language >>= _).run index) = _
  rw [Inquiry.run_bind, Inquiry.run_candidates, htopics]
  rfl

/-- The course of the question, once its candidates are there. -/
theorem run_starring_of_candidates {engine : Engine} {term anchor : String} {language : Language}
    {entry : Catalog.Entry} {candidates : SortedSet Element}
    (hentry : engine.catalog.entries.find? term = some entry)
    (hcandidates : index.topics anchor language = .ok candidates) :
    (engine.starring term anchor language).run index =
      match (collect candidates .topic entry.predicate .any).run index with
      | .error .notFound =>
        match entry.collection with
        | none => .error .notFound
        | some collection => (throughNodes candidates collection entry.predicate).run index
      | outcome => outcome := by
  unfold starring
  rw [lookup_of_find? hentry]
  show ((Inquiry.candidates anchor language >>= _).run index) = _
  rw [Inquiry.run_bind, Inquiry.run_candidates, hcandidates]
  show ((collect candidates .topic entry.predicate .any).ifFound >>= _).run index = _
  rw [Inquiry.run_bind, Inquiry.run_ifFound]
  cases (collect candidates .topic entry.predicate .any).run index with
  | ok results => rfl
  | error failure =>
    cases failure with
    | notFound => cases entry.collection <;> rfl
    | _ => rfl

theorem first?_eq_none_of_notFound {f : Element → Except Failure (SortedSet Element)}
    {candidates : SortedSet Element} (h : ∀ e ∈ candidates, f e = .error .notFound) :
    Failure.first? (candidates.toList.map f) = none := by
  rw [Failure.first?_eq_none_iff, List.forall_mem_map]
  exact fun e he => .inr (h e he)

section FollowsEntry

variable {entry : Catalog.Entry} {candidates : SortedSet Element}

theorem followsEntry_of_failure {failure : Failure}
    (hfirst : Failure.first? (candidates.toList.map (index.topicsOf entry.predicate)) =
      some failure) : FollowsEntry index entry candidates (.error failure) := by
  -- it cannot be that every candidate has nothing
  have hsome (h : ∀ e ∈ candidates, index.topicsOf entry.predicate e = .error .notFound) :
      False := by
    rw [first?_eq_none_of_notFound h] at hfirst
    cases hfirst
  refine
    { failed := fun other h => ?_
      direct := fun h => by cases hfirst.symm.trans h
      notFound := fun h => (hsome h).elim
      through := fun h => (hsome h).elim
      nothing := fun h => (hsome h).elim }
  rw [Option.some.inj (hfirst.symm.trans h)]

theorem followsEntry_of_results {results : ResultMap}
    (hfirst : Failure.first? (candidates.toList.map (index.topicsOf entry.predicate)) = none)
    (htable : results.Tabulates (index.topicsOf entry.predicate) candidates.toList)
    (hsome : results.isEmpty = false) : FollowsEntry index entry candidates (.ok results) := by
  have hfound (h : ∀ e ∈ candidates, index.topicsOf entry.predicate e = .error .notFound) :
      False := by
    have hempty : results.isEmpty = true := htable.isEmpty_iff.mpr fun e he values hvalues => by
      cases (h e he).symm.trans hvalues
    rw [hempty] at hsome
    cases hsome
  exact
    { failed := fun failure h => by cases hfirst.symm.trans h
      direct := fun _ _ => ⟨results, rfl, htable⟩
      notFound := fun h => (hfound h).elim
      through := fun h => (hfound h).elim
      nothing := fun h => (hfound h).elim }

/-- Where the candidates have nothing, the nodes decide. -/
theorem followsEntry_of_nothing (hindex : index.NeverEmpty)
    (hfirst : Failure.first? (candidates.toList.map (index.topicsOf entry.predicate)) = none)
    (hnone : ∀ e ∈ candidates.toList, ∀ values, index.topicsOf entry.predicate e ≠ .ok values) :
    FollowsEntry index entry candidates
      (match entry.collection with
      | none => .error .notFound
      | some collection => (throughNodes candidates collection entry.predicate).run index) := by
  refine
    { failed := fun failure h => by cases hfirst.symm.trans h
      direct := fun _ ⟨e, he, values, hvalues⟩ => absurd hvalues (hnone e he values)
      notFound := fun _ hcollection => ?_
      through := fun _ collection hcollection hsome => ?_
      nothing := fun _ collection hcollection hnothing => ?_ }
  · rw [hcollection]
  · obtain ⟨results, htable, hrun⟩ :=
      run_throughNodes hindex candidates collection entry.predicate
    have hfound : ¬results.isEmpty = true := by
      intro hempty
      obtain ⟨node, hnode, values, hvalues⟩ := hsome
      exact htable.isEmpty_iff.mp hempty node hnode values hvalues
    rw [hcollection]
    exact ⟨results, hrun.trans (if_neg hfound), htable⟩
  · obtain ⟨results, htable, hrun⟩ :=
      run_throughNodes hindex candidates collection entry.predicate
    rw [hcollection]
    exact hrun.trans (if_pos (htable.isEmpty_iff.mpr hnothing))

theorem followsEntry_starring (hindex : index.NeverEmpty) {engine : Engine} {term anchor : String}
    {language : Language} (hentry : engine.catalog.entries.find? term = some entry)
    (hcandidates : index.topics anchor language = .ok candidates) :
    FollowsEntry index entry candidates ((engine.starring term anchor language).run index) := by
  rw [run_starring_of_candidates hentry hcandidates]
  have hcollect := run_collect_any hindex entry.predicate candidates
  cases hfirst : Failure.first? (candidates.toList.map (index.topicsOf entry.predicate)) with
  | some failure =>
    rw [hfirst] at hcollect
    dsimp only at hcollect
    rw [hcollect]
    obtain ⟨_, hserious⟩ := Failure.of_first? hfirst
    cases failure with
    | notFound => exact absurd rfl hserious
    | _ => exact followsEntry_of_failure hfirst
  | none =>
    rw [hfirst] at hcollect
    obtain ⟨results, htable, hrun⟩ := hcollect
    rw [hrun]
    by_cases hempty : results.isEmpty = true
    · rw [if_pos hempty]
      exact followsEntry_of_nothing hindex hfirst (htable.isEmpty_iff.mp hempty)
    · rw [if_neg hempty]
      exact followsEntry_of_results hfirst htable (by simpa using hempty)

/-- A starring question ends in results, which are some, or in a failure that a look-up at some
element gave, or in that nothing was found. -/
theorem FollowsEntry.total {outcome : Except Failure ResultMap}
    (h : FollowsEntry index entry candidates outcome) :
    (∃ results : ResultMap, outcome = .ok results ∧ results.isEmpty = false) ∨
      outcome = .error .notFound ∨
      ∃ field e failure, outcome = .error failure ∧ index.topicsOf field e = .error failure := by
  have hsome {results : ResultMap} {elements : List Element}
      (htable : results.Tabulates (index.topicsOf entry.predicate) elements)
      (hfound : ∃ e ∈ elements, ∃ values, index.topicsOf entry.predicate e = .ok values) :
      results.isEmpty = false := by
    rw [← Bool.not_eq_true, htable.isEmpty_iff]
    obtain ⟨e, he, values, hvalues⟩ := hfound
    exact fun hnone => hnone e he values hvalues
  cases hfirst : Failure.first? (candidates.toList.map (index.topicsOf entry.predicate)) with
  | some failure =>
    obtain ⟨e, _, he⟩ := Failure.exists_of_first?_map hfirst
    exact .inr (.inr ⟨_, e, failure, h.failed failure hfirst, he⟩)
  | none =>
    by_cases hdirect : ∃ e ∈ candidates, ∃ values, index.topicsOf entry.predicate e = .ok values
    · obtain ⟨results, houtcome, htable⟩ := h.direct hfirst hdirect
      exact .inl ⟨results, houtcome, hsome htable hdirect⟩
    -- the candidates have nothing
    have hnone : ∀ e ∈ candidates, index.topicsOf entry.predicate e = .error .notFound := by
      intro e he
      rcases Failure.first?_eq_none_iff.mp hfirst _ (List.mem_map_of_mem he) with
        ⟨values, hvalues⟩ | hnotFound
      · exact absurd ⟨e, he, values, hvalues⟩ hdirect
      · exact hnotFound
    cases hcollection : entry.collection with
    | none => exact .inr (.inl (h.notFound hnone hcollection))
    | some collection =>
      by_cases hnodes : ∃ node ∈ index.nodes collection candidates, ∃ values,
          index.topicsOf entry.predicate node = .ok values
      · obtain ⟨results, houtcome, htable⟩ := h.through hnone collection hcollection hnodes
        exact .inl ⟨results, houtcome, hsome htable hnodes⟩
      · push Not at hnodes
        have houtcome := h.nothing hnone collection hcollection hnodes
        rw [Failure.first?_append] at houtcome
        -- the first failure is one on the way to the nodes or, without one there, at them
        cases hway : Failure.first? (candidates.toList.map (index.topicsOf collection)) with
        | some failure =>
          rw [hway] at houtcome
          obtain ⟨e, _, he⟩ := Failure.exists_of_first?_map hway
          exact .inr (.inr ⟨_, e, failure, houtcome, he⟩)
        | none =>
          rw [hway, Option.none_or] at houtcome
          cases hat : Failure.first? ((index.nodes collection candidates).toList.map
              (index.topicsOf entry.predicate)) with
          | some failure =>
            rw [hat] at houtcome
            obtain ⟨e, _, he⟩ := Failure.exists_of_first?_map hat
            exact .inr (.inr ⟨_, e, failure, houtcome, he⟩)
          | none =>
            rw [hat] at houtcome
            exact .inr (.inl houtcome)

end FollowsEntry

/-- **How a starring question ends.** -/
theorem starring_ends (hindex : index.NeverEmpty) (engine : Engine) (language : Language)
    (term anchor : String) :
    (∃ results : ResultMap, (engine.starring term anchor language).run index = .ok results ∧
      results.isEmpty = false) ∨
    ∃ failure, (engine.starring term anchor language).run index = .error failure ∧
      (failure = .unknownTerm term ∨ failure = .notFound ∨
        index.topics anchor language = .error failure ∨
        ∃ field e, index.topicsOf field e = .error failure) := by
  cases hentry : engine.catalog.entries.find? term with
  | none =>
    rw [run_starring_of_missing hentry]
    exact .inr ⟨_, rfl, .inl rfl⟩
  | some entry =>
    cases htopics : index.topics anchor language with
    | error failure =>
      exact .inr ⟨failure, run_starring_of_failure hentry htopics, .inr (.inr (.inl rfl))⟩
    | ok candidates =>
      rcases (followsEntry_starring hindex hentry htopics).total with
        hresults | hnotFound | ⟨field, e, failure, hfailure, he⟩
      · exact .inl hresults
      · exact .inr ⟨_, hnotFound, .inr (.inl rfl)⟩
      · exact .inr ⟨failure, hfailure, .inr (.inr (.inr ⟨field, e, he⟩))⟩

/-- **Starring questions look at the candidates first and at the nodes of a collection second.**  On
every index that never finds nothing, whatever else its look-ups come to: a term that is not
registered fails the question before anything is asked; a failure to look up the candidates is the
outcome; else the outcome follows the entry of the term.  The question never succeeds with no
results, and it finds its input of a wrong type only if a look-up does. -/
theorem starring_exact (index : Index) (hindex : index.NeverEmpty) (engine : Engine)
    (language : Language) (term anchor : String) :
    let outcome := (engine.starring term anchor language).run index
    (∀ question, Question.template question = .ok (.starring term anchor) →
      engine.queryIn language question = engine.starring term anchor language) ∧
    (engine.catalog.entries.find? term = none →
      engine.starring term anchor language = .fail (.unknownTerm term)) ∧
    (∀ entry, engine.catalog.entries.find? term = some entry →
      (∀ failure, index.topics anchor language = .error failure → outcome = .error failure) ∧
      ∀ candidates, index.topics anchor language = .ok candidates →
        FollowsEntry index entry candidates outcome) ∧
    (∀ results, outcome = .ok results → results.isEmpty = false) ∧
    ∀ detail, outcome = .error (.wrongInputType detail) →
      index.topics anchor language = .error (.wrongInputType detail) ∨
        ∃ lookup, index.property lookup = .error (.wrongInputType detail) := by
  intro outcome
  have hends := starring_ends hindex engine language term anchor
  refine ⟨fun question hquestion => ?_, fun hmissing => run_starring_of_missing hmissing _ _,
    fun entry hentry => ⟨fun failure => run_starring_of_failure hentry,
      fun candidates => followsEntry_starring hindex hentry⟩,
    fun results houtcome => ?_, fun detail houtcome => ?_⟩
  · unfold queryIn
    rw [hquestion]
    rfl
  · rcases hends with ⟨found, hfound, hsome⟩ | ⟨failure, hfailure, _⟩
    · cases houtcome.symm.trans hfound
      exact hsome
    · cases houtcome.symm.trans hfailure
  · rcases hends with ⟨found, hfound, _⟩ | ⟨failure, hfailure, hcause⟩
    · cases houtcome.symm.trans hfound
    · cases houtcome.symm.trans hfailure
      rcases hcause with h | h | h | ⟨field, e, he⟩
      · cases h
      · cases h
      · exact .inl h
      · rcases Index.of_topicsOf_error he with h | ⟨detail, h⟩
        · exact .inr ⟨_, h⟩
        · cases h

/-- A film with a cast of two. -/
def cast : TripleSet := .ofList [
  ⟨"m.1", "label", "Jaws @en"⟩, ⟨"m.1", "film.film.starring", "m.2"⟩,
  ⟨"m.1", "film.film.starring", "m.3"⟩, ⟨"m.2", "film.performance.actor", "m.4"⟩,
  ⟨"m.3", "film.performance.actor", "m.5"⟩]

/-- The look-up of the first actor fails. -/
def brokenCast : Index where
  property lookup :=
    if lookup = ⟨"film.performance.actor", "m.2", .subject⟩ then .error .database
    else cast.index.property lookup
  topics := cast.index.topics

theorem neverEmpty_brokenCast : brokenCast.NeverEmpty := by
  intro lookup found hfound
  unfold brokenCast at hfound
  dsimp only at hfound
  split at hfound
  · cases hfound
  · exact cast.neverEmpty_index lookup found hfound

/-- The actor that can be looked up is told all the same. -/
theorem starring_exact_jaws : brokenCast.NeverEmpty ∧
    ∃ results, (queryIn {} .english "Tell me the actors of Jaws").run brokenCast = .ok results ∧
      results.find? ⟨.topic, "m.3", by decide⟩ = some (.singleton ⟨.topic, "m.5", by decide⟩) := by
  have htemplate : Question.template "Tell me the actors of Jaws" =
      .ok (.starring "actors" "Jaws") := by decide +kernel
  have hcandidates : brokenCast.topics "Jaws" .english =
      .ok (.singleton ⟨.topic, "m.1", by decide⟩) := rfl
  obtain ⟨hquestion, _, hentry, _⟩ :=
    starring_exact brokenCast neverEmpty_brokenCast {} .english "actors" "Jaws"
  obtain ⟨_, hfollows⟩ := hentry ⟨"film.performance.actor", some "film.film.starring"⟩ (by decide)
  have hnode : ⟨.topic, "m.3", by decide⟩ ∈
      brokenCast.nodes "film.film.starring" (.singleton ⟨.topic, "m.1", by decide⟩) := by decide
  have hactor : brokenCast.topicsOf "film.performance.actor" ⟨.topic, "m.3", by decide⟩ =
      .ok (.singleton ⟨.topic, "m.5", by decide⟩) := rfl
  obtain ⟨results, houtcome, htable⟩ := (hfollows _ hcandidates).through
    (fun e he => by rw [List.mem_singleton.mp he]; rfl) _ rfl ⟨_, hnode, _, hactor⟩
  rw [hquestion _ htemplate]
  exact ⟨neverEmpty_brokenCast, results, houtcome, (htable _ _).mpr ⟨hnode, hactor⟩⟩

end Engine

end GraphAnswers
