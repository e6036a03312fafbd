import GraphAnswers.Proofs.Inquiries
import GraphAnswers.Proofs.Lines
import GraphAnswers.Proofs.OnePredicate
import GraphAnswers.Proofs.PlainRows
/-!
# Results in lines

Whatever is found in plain rows, now or at some time before, is told in lines, one for each anchor
of the results, in their order.  No line has an end in it, none ends in a carriage return, and each
opens with the identifier of its anchor (`Engine.comes_wording`).  The way there follows the course
of a question: what single look-ups give (`Lookup.FindsPlain`), what the results consist of
(`Engine.comes_query`), and what is made of them in words.
-/
namespace GraphAnswers

open Text

/-! ### Look-ups -/

/-- **What is known of a look-up** in plain rows that succeeds. -/
structure Lookup.FindsPlain (lookup : Lookup) (found : SortedSet String) : Prop where
  something : ∃ s, s ∈ found
  one : ∀ s ∈ found, '\n' ∉ s.toList
  types : lookup.field = Field.type → lookup.role = .subject → ∀ s ∈ found, '\r' ∉ s.toList

/-- Whether an identifier keeps to its line, and that of a type to its end as well. -/
def Element.IsPlain (e : Element) : Prop :=
  '\n' ∉ e.id.toList ∧ (e.kind = .type → '\r' ∉ e.id.toList)

/-- **Whether whatever an index gives is plain.** -/
structure Index.IsPlain (index : Index) : Prop where
  property : ∀ lookup found, index.property lookup = .ok found → lookup.FindsPlain found
  topics : ∀ term language found, index.topics term language = .ok found →
    ∀ e ∈ found, e.IsPlain

/-- **Plain rows give what is plain.** -/
theorem Store.isPlain_index {s : Store} (h : ∀ row ∈ s.rows, row.triple.IsPlain) :
    s.index.IsPlain := by
  have hsubjects (predicate object : String) :
      ∀ x ∈ s.selectSubjects predicate object, '\n' ∉ x.toList := by
    intro x hx
    unfold Store.selectSubjects at hx
    obtain ⟨row, hrow, rfl⟩ := List.mem_map.mp (SortedSet.mem_ofList.mp hx)
    exact (h row (List.mem_of_mem_filter hrow)).subject
  constructor
  · rintro ⟨field, anchor, role⟩ found hfound
    cases role with
    | subject =>
      obtain ⟨rfl, hsome⟩ := nonEmpty_ok_iff.mp hfound
      have hrow (x : String) (hx : x ∈ (s.selectObjects field anchor).map shownObject) :
          ∃ row ∈ s.rows, row.triple.predicate = field ∧ shownObject row.triple.object = x := by
        obtain ⟨object, hobject, rfl⟩ := SortedSet.mem_map.mp hx
        unfold Store.selectObjects at hobject
        obtain ⟨row, hrow, rfl⟩ := List.mem_map.mp (SortedSet.mem_ofList.mp hobject)
        obtain ⟨hmem, hmatch⟩ := List.mem_filter.mp hrow
        simp only [Bool.and_eq_true, beq_iff_eq] at hmatch
        exact ⟨row, hmem, hmatch.1, rfl⟩
      refine ⟨hsome, fun x hx => ?_, fun htype _ x hx => ?_⟩
      · obtain ⟨row, hmem, _, rfl⟩ := hrow x hx
        exact notMem_replaceWhere (h row hmem).object (by decide)
      · obtain ⟨row, hmem, hfield, rfl⟩ := hrow x hx
        exact notMem_replaceWhere ((h row hmem).type (hfield.trans htype)) (by decide)
    | object =>
      obtain ⟨rfl, hsome⟩ := nonEmpty_ok_iff.mp hfound
      exact ⟨hsome, hsubjects field anchor, fun _ hrole => by cases hrole⟩
  · intro term language found hfound e he
    obtain ⟨subjects, hsubjects', hids⟩ := bind_ok_iff.mp hfound
    obtain ⟨rfl, _⟩ := nonEmpty_ok_iff.mp hsubjects'
    obtain ⟨hkind, hid⟩ := (Element.ofIds_eq_ok hids e).mp he
    refine ⟨?_, fun htype => by cases hkind.symm.trans htype⟩
    split at hid
    · exact hsubjects Field.type term _ hid
    · exact hsubjects Field.label _ _ hid

theorem Database.IsFromDumps.isPlain_index {d : Database} (h : d.IsFromDumps) :
    d.index.IsPlain := by
  have hstore := Store.isPlain_index h.isPlain
  constructor
  · intro lookup found hfound
    obtain ⟨_, _, hrest⟩ := bind_ok_iff.mp hfound
    exact hstore.property lookup found hrest
  · intro term language found hfound
    obtain ⟨_, _, hrest⟩ := bind_ok_iff.mp hfound
    exact hstore.topics term language found hrest

/-! ### Catalogs -/

namespace Catalog

/-- Whether a catalog has no end of line in a predicate. -/
def IsPlain (c : Catalog) : Prop :=
  ∀ term entry, c.lookup term = .ok entry → '\n' ∉ entry.predicate.toList

variable {c : Catalog}

theorem isPlain_empty : empty.IsPlain := fun _ _ h => by cases h

theorem IsPlain.register (h : c.IsPlain) {term : String} {entry : Entry}
    (hentry : '\n' ∉ entry.predicate.toList) : (c.register term entry).IsPlain := by
  intro other found hfound
  unfold lookup Catalog.register at hfound
  dsimp only at hfound
  rw [SortedMap.find?_insert] at hfound
  by_cases hsame : other = term
  · rw [if_pos hsame] at hfound
    cases hfound
    exact hentry
  · rw [if_neg hsame] at hfound
    exact h other found hfound

theorem IsPlain.registerAll (h : c.IsPlain) {entries : List (String × Entry)}
    (hentries : ∀ e ∈ entries, '\n' ∉ e.2.predicate.toList) : (c.registerAll entries).IsPlain := by
  unfold Catalog.registerAll
  induction entries generalizing c with
  | nil => exact h
  | cons e entries ih =>
    exact ih (h.register (hentries e List.mem_cons_self)) fun e' he' =>
      hentries e' (List.mem_cons_of_mem e he')

theorem isPlain_standard : standard.IsPlain := isPlain_empty.registerAll (by decide)

end Catalog

/-! ### Results -/

/-- **Whether results can be told in lines.** -/
structure ResultMap.IsPlain (m : ResultMap) : Prop where
  anchors : ∀ e values, m.find? e = some values → '\n' ∉ e.id.toList
  values : ∀ e values, m.find? e = some values → ∀ v ∈ values, v.IsPlain


namespace ResultMap

variable {m : ResultMap} {anchor : Element} {values : SortedSet Element}

theorem isPlain_empty : empty.IsPlain where
  anchors e values h := by cases h
  values e values h := by cases h

theorem IsPlain.insert (h : m.IsPlain) (hanchor : '\n' ∉ anchor.id.toList)
    (hvalues : ∀ v ∈ values, v.IsPlain) : (m.insert anchor values).1.IsPlain := by
  by_cases hsome : ∃ v, v ∈ values
  · refine ⟨fun e found hfind => ?_, fun e found hfind v hv => ?_⟩
    · rw [find?_insert m hsome] at hfind
      split at hfind
      · rename_i he
        exact he ▸ hanchor
      · exact h.anchors e found hfind
    · rw [find?_insert m hsome] at hfind
      split at hfind
      · cases hold : m.find? anchor with
        | none =>
          rw [hold] at hfind
          cases hfind
          exact hvalues v hv
        | some old =>
          rw [hold] at hfind
          cases hfind
          rcases SortedSet.mem_union.mp hv with hv | hv
          · exact h.values anchor old hold v hv
          · exact hvalues v hv
      · exact h.values e found hfind v hv
  · have hnone : values.isEmpty = true := by
      rw [SortedSet.isEmpty_iff]
      exact fun v hv => hsome ⟨v, hv⟩
    unfold ResultMap.insert
    rwa [if_pos hnone]

theorem isEmpty_insert (h : ∃ v, v ∈ values) : (m.insert anchor values).1.isEmpty = false := by
  rw [← Bool.not_eq_true, isEmpty_iff]
  intro hnone
  have := find?_insert m h anchor anchor
  rw [if_pos rfl, hnone anchor] at this
  cases this

theorem find?_truncate (m : ResultMap) (n : Nat) (anchor : Element) :
    (m.truncate n).find? anchor = (m.find? anchor).map (·.take n) := by
  show ((m.entries.toList.map fun e => (e.1, e.2.take n)).find? _).map Prod.snd = _
  rw [List.find?_map, Option.map_map]
  unfold find?
  rw [SortedMap.find?_eq, Option.map_map]
  rfl

theorem IsPlain.truncate (h : m.IsPlain) (n : Nat) : (m.truncate n).IsPlain := by
  refine ⟨fun e found hfind => ?_, fun e found hfind v hv => ?_⟩
  · rw [find?_truncate] at hfind
    obtain ⟨old, hold, _⟩ := Option.map_eq_some_iff.mp hfind
    exact h.anchors e old hold
  · rw [find?_truncate] at hfind
    obtain ⟨old, hold, rfl⟩ := Option.map_eq_some_iff.mp hfind
    exact h.values e old hold v (List.mem_of_mem_take hv)

theorem isEmpty_truncate (m : ResultMap) (n : Nat) : (m.truncate n).isEmpty = m.isEmpty := by
  unfold ResultMap.truncate ResultMap.isEmpty SortedMap.mapValues SortedMap.isEmpty
  rw [List.isEmpty_map]

end ResultMap

/-! ### What a question may find -/

namespace Engine

variable {index : Index} {kind : ElementKind} {field term anchor question : String}
  {filter : PersonFilter} {language : Language} {engine : Engine} {results : ResultMap}
  {candidates : SortedSet Element}

theorem comes_elements {lookup : Lookup} {elements : SortedSet Element}
    (hkind : kind = .type → lookup.field = Field.type ∧ lookup.role = .subject)
    (h : (Inquiry.elements kind lookup).Comes index (index.Admits Lookup.FindsPlain)
      (.ok elements)) : (∃ e, e ∈ elements) ∧ ∀ e ∈ elements, e.IsPlain := by
  obtain ⟨found, hfound, hids⟩ := Inquiry.comes_bind_ok_iff.mp h
  have hplain : lookup.FindsPlain found := Inquiry.comes_values_iff.mp hfound
  have helements := (Inquiry.comes_ofExcept_iff.mp hids).symm
  refine ⟨?_, fun e he => ?_⟩
  · obtain ⟨id, hid⟩ := hplain.something
    exact Element.exists_of_ofIds helements hid
  · obtain ⟨he, hid⟩ := (Element.ofIds_eq_ok helements e).mp he
    refine ⟨hplain.one _ hid, fun htype => ?_⟩
    obtain ⟨hf, hr⟩ := hkind (he.symm.trans htype)
    exact hplain.types hf hr _ hid

theorem comes_collectOne {c c' : Collected} {e : Element} (hkind : kind = .type → field = Field.type)
    (hc : c.results.IsPlain) (he : e.IsPlain)
    (h : (collectOne kind field filter c e).Comes index (index.Admits Lookup.FindsPlain) (.ok c')) :
    c'.results.IsPlain := by
  obtain ⟨accepted, _, h⟩ := Inquiry.comes_bind_ok_iff.mp h
  split at h
  · obtain ⟨found, hfound, h⟩ := Inquiry.comes_bind_ok_iff.mp h
    cases found with
    | none =>
      obtain rfl := Inquiry.comes_pure_iff.mp h
      exact hc
    | some values =>
      obtain rfl := Inquiry.comes_pure_iff.mp h
      have hvalues := comes_elements (fun htype => ⟨hkind htype, rfl⟩)
        (Inquiry.comes_ifFound_some hfound)
      exact hc.insert he.1 hvalues.2
  · obtain rfl := Inquiry.comes_pure_iff.mp h
    exact hc

theorem comes_collect (hkind : kind = .type → field = Field.type)
    (hcandidates : ∀ e ∈ candidates, e.IsPlain)
    (h : (collect candidates kind field filter).Comes index (index.Admits Lookup.FindsPlain)
      (.ok results)) : results.IsPlain ∧ results.isEmpty = false := by
  obtain ⟨collected, hwalk, h⟩ := Inquiry.comes_bind_ok_iff.mp h
  have hplain : collected.results.IsPlain :=
    Inquiry.comes_foldlM (fun c => c.results.IsPlain) hwalk ResultMap.isPlain_empty
      fun c e c' he hc => comes_collectOne hkind hc (hcandidates e he)
  have houtcome := Inquiry.comes_ofExcept_iff.mp h
  unfold Collected.outcome at houtcome
  split at houtcome
  · rename_i hsome
    cases houtcome
    exact ⟨hplain, by simpa using hsome⟩
  · split at houtcome <;> cases houtcome

/-- Whether the elements found so far are plain. -/
def Expanded.IsPlain (x : Expanded) : Prop :=
  ∀ found ∈ x.found, found.1.IsPlain ∧ ∀ v ∈ found.2, v.IsPlain

theorem Expanded.IsPlain.add {x : Expanded} {e : Element}
    {outcome : Except Failure (SortedSet Element)} (h : x.IsPlain) (he : e.IsPlain)
    (hvalues : ∀ values, outcome = .ok values → ∀ v ∈ values, v.IsPlain) :
    (x.add e outcome).IsPlain := by
  unfold Expanded.add
  split
  · rename_i values
    intro found hfound
    rcases List.mem_append.mp hfound with hfound | hfound
    · exact h found hfound
    · obtain rfl := List.mem_singleton.mp hfound
      exact ⟨he, hvalues values rfl⟩
  · exact h
  · exact h

theorem comes_expand {elements : SortedSet Element} {start x : Expanded} (hstart : start.IsPlain)
    (helements : ∀ e ∈ elements, e.IsPlain)
    (h : (expand field elements start).Comes index (index.Admits Lookup.FindsPlain) (.ok x)) :
    x.IsPlain := by
  refine Inquiry.comes_foldlM Expanded.IsPlain h hstart fun y e y' he hy hadd => ?_
  obtain ⟨outcome, houtcome, hadd⟩ := Inquiry.comes_bind_ok_iff.mp hadd
  obtain rfl := Inquiry.comes_pure_iff.mp hadd
  refine hy.add (helements e he) ?_
  rintro values rfl
  exact (comes_elements (fun htype => by cases htype) (Inquiry.comes_attempt houtcome)).2

theorem Expanded.IsPlain.foldl_insert {x : Expanded} (h : x.IsPlain) {m : ResultMap}
    (hm : m.IsPlain) : (x.found.foldl (fun m e => (m.insert e.1 e.2).1) m).IsPlain := by
  have hall (found : List (Element × SortedSet Element)) (m : ResultMap) (hm : m.IsPlain)
      (hf : ∀ e ∈ found, e.1.IsPlain ∧ ∀ v ∈ e.2, v.IsPlain) :
      (found.foldl (fun m e => (m.insert e.1 e.2).1) m).IsPlain := by
    induction found generalizing m with
    | nil => exact hm
    | cons e found ih =>
      obtain ⟨he, hvalues⟩ := hf e List.mem_cons_self
      exact ih _ (hm.insert he.1 hvalues) fun e' he' => hf e' (List.mem_cons_of_mem _ he')
  exact hall x.found m hm h

theorem comes_throughNodes {collection predicate : String}
    (hcandidates : ∀ e ∈ candidates, e.IsPlain)
    (h : (throughNodes candidates collection predicate).Comes index
      (index.Admits Lookup.FindsPlain) (.ok results)) :
    results.IsPlain ∧ results.isEmpty = false := by
  obtain ⟨reached, hreached, h⟩ := Inquiry.comes_bind_ok_iff.mp h
  obtain ⟨valued, hvalued, h⟩ := Inquiry.comes_bind_ok_iff.mp h
  have hreached : reached.IsPlain := comes_expand (fun _ hf => by cases hf) hcandidates hreached
  have hnodes : ∀ e ∈ reached.found.foldl (fun s e => s.union e.2) SortedSet.empty, e.IsPlain := by
    intro e he
    rcases SortedSet.mem_foldl_union.mp he with he | ⟨found, hfound, he⟩
    · exact absurd he (SortedSet.not_mem_empty e)
    · exact (hreached found hfound).2 e he
  have hvalued : valued.IsPlain := comes_expand (fun _ hf => by cases hf) hnodes hvalued
  dsimp only at h
  split at h
  · exact absurd h Inquiry.not_comes_fail
  · rename_i hsome
    obtain rfl := Inquiry.comes_pure_iff.mp h
    exact ⟨hvalued.foldl_insert ResultMap.isPlain_empty, by simpa using hsome⟩

variable (hindex : index.IsPlain)

include hindex

theorem comes_candidates (h : (Inquiry.candidates anchor language).Comes index
    (index.Admits Lookup.FindsPlain) (.ok candidates)) : ∀ e ∈ candidates, e.IsPlain :=
  hindex.topics anchor language candidates (Inquiry.comes_candidates_iff.mp h).symm

theorem comes_starring (h : (engine.starring term anchor language).Comes index
    (index.Admits Lookup.FindsPlain) (.ok results)) :
    results.IsPlain ∧ results.isEmpty = false := by
  obtain ⟨entry, _, h⟩ := Inquiry.comes_bind_ok_iff.mp h
  obtain ⟨candidates, hcandidates, h⟩ := Inquiry.comes_bind_ok_iff.mp h
  obtain ⟨direct, hdirect, h⟩ := Inquiry.comes_bind_ok_iff.mp h
  have hcandidates := comes_candidates hindex hcandidates
  cases direct with
  | some found =>
    obtain rfl := Inquiry.comes_pure_iff.mp h
    exact comes_collect (fun htype => by cases htype) hcandidates
      (Inquiry.comes_ifFound_some hdirect)
  | none =>
    dsimp only at h
    split at h
    · exact absurd h Inquiry.not_comes_fail
    · exact comes_throughNodes hcandidates h

omit hindex in
theorem comes_quantity {count : Nat} (hcatalog : engine.catalog.IsPlain)
    (h : (engine.quantity count term).Comes index (index.Admits Lookup.FindsPlain)
      (.ok results)) : results.IsPlain ∧ results.isEmpty = false := by
  obtain ⟨type, htype, h⟩ := Inquiry.comes_bind_ok_iff.mp h
  obtain ⟨key, hkey, h⟩ := Inquiry.comes_bind_ok_iff.mp h
  obtain ⟨topics, htopics, h⟩ := Inquiry.comes_bind_ok_iff.mp h
  obtain rfl := Inquiry.comes_pure_iff.mp h
  have hid : key.id = type := by
    have hkey := Inquiry.comes_ofExcept_iff.mp hkey
    unfold Element.ofId at hkey
    split at hkey
    · cases hkey
      rfl
    · cases hkey
  have hpredicate : '\n' ∉ type.toList := by
    have htype := Inquiry.comes_ofExcept_iff.mp htype
    unfold quantityType at htype
    split at htype
    · obtain ⟨entry, hentry, heq⟩ := bind_ok_iff.mp htype.symm
      cases heq
      exact hcatalog term entry hentry
    · split at htype
      · split at htype <;> cases htype
      · split at htype <;> cases htype
  obtain ⟨hsome, hplain⟩ := comes_elements (fun htype => by cases htype) htopics
  refine ⟨(ResultMap.isPlain_empty.insert (hid ▸ hpredicate) hplain).truncate count, ?_⟩
  rw [ResultMap.isEmpty_truncate, ResultMap.isEmpty_insert hsome]

/-- **The results of a question are plain, and there is one.** -/
theorem comes_query (hcatalog : engine.catalog.IsPlain)
    (h : (engine.query question).Comes index (index.Admits Lookup.FindsPlain) (.ok results)) :
    results.IsPlain ∧ results.isEmpty = false := by
  obtain ⟨template, _, h⟩ := Inquiry.comes_bind_ok_iff.mp h
  cases template with
  | typeOf anchor filter =>
    obtain ⟨candidates, hcandidates, h⟩ := Inquiry.comes_bind_ok_iff.mp h
    exact comes_collect (fun _ => rfl) (comes_candidates hindex hcandidates) h
  | birthplace anchor =>
    obtain ⟨candidates, hcandidates, h⟩ := Inquiry.comes_bind_ok_iff.mp h
    exact comes_collect (fun htype => by cases htype) (comes_candidates hindex hcandidates) h
  | property term anchor =>
    obtain ⟨predicate, _, h⟩ := Inquiry.comes_bind_ok_iff.mp h
    obtain ⟨candidates, hcandidates, h⟩ := Inquiry.comes_bind_ok_iff.mp h
    exact comes_collect (fun htype => by cases htype) (comes_candidates hindex hcandidates) h
  | starring term anchor => exact comes_starring hindex h
  | quantity count term => exact comes_quantity hcatalog h

end Engine

/-! ### Answers in words -/

/-- Whether a line is about an element: it opens with the identifier. -/
def Element.Heads (e : Element) (line : String) : Prop := ∃ labels, line = e.id ++ ": " ++ labels

theorem Language.isLine_display {language : Language} {label s : String}
    (hlabel : '\n' ∉ label.toList) (h : language.display label = .ok (some s)) : IsLine s := by
  unfold Language.display at h
  cases hsplit : splitLast? '@' label.toList with
  | none =>
    rw [hsplit] at h
    exact absurd h (by simp)
  | some parts =>
    obtain ⟨text, code⟩ := parts
    obtain ⟨hlabel', _⟩ := of_splitLast? hsplit
    have htext : '\n' ∉ text := by
      intro hmem
      rw [hlabel'] at hlabel
      exact hlabel (List.mem_append_left _ hmem)
    have hshown : '\n' ∉ (replaceWhere (· == '-') ' ' (String.ofList text)).toList := by
      refine notMem_replaceWhere ?_ (by decide)
      rwa [String.toList_ofList]
    rw [hsplit] at h
    dsimp only at h
    by_cases hcode : code = language.code.toList
    · rw [if_pos hcode] at h
      obtain rfl := Option.some.inj (Except.ok.inj h)
      exact isLine_trim hshown
    · rw [if_neg hcode] at h
      exact absurd h (by simp)

namespace Engine

variable {index : Index} {language : Language} {anchor value : Element} {results : ResultMap}
  {values : SortedSet Element} {text : String}

/-- **A label is one line.** -/
theorem comes_labels {labels : SortedSet String} (hvalue : value.IsPlain)
    (h : (Inquiry.labels value language).Comes index (index.Admits Lookup.FindsPlain)
      (.ok labels)) : ∀ s ∈ labels, IsLine s := by
  unfold Inquiry.labels at h
  split at h
  · rename_i hkind
    obtain rfl := Inquiry.comes_pure_iff.mp h
    intro s hs
    obtain rfl := List.mem_singleton.mp hs
    exact ⟨hvalue.1, fun hlast => hvalue.2 hkind (List.mem_of_getLast? hlast)⟩
  · obtain ⟨found, hfound, hshown⟩ := Inquiry.comes_bind_ok_iff.mp h
    have hplain : Lookup.FindsPlain _ found := Inquiry.comes_values_iff.mp hfound
    have hshown := (Inquiry.comes_ofExcept_iff.mp hshown).symm
    intro s hs
    obtain ⟨v, hv, hdisplay⟩ := ((Inquiry.of_displayed_ok hshown).2 s).mp hs
    exact Language.isLine_display (hplain.one v hv) hdisplay

/-- **What is told of an anchor is one line**, and it opens with the identifier. -/
theorem comes_line (hanchor : '\n' ∉ anchor.id.toList) (hvalues : ∀ v ∈ values, v.IsPlain)
    (h : (line language anchor values).Comes index (index.Admits Lookup.FindsPlain) (.ok text)) :
    IsLine text ∧ anchor.Heads text := by
  obtain ⟨labels, hlabels, h⟩ := Inquiry.comes_bind_ok_iff.mp h
  obtain rfl := Inquiry.comes_pure_iff.mp h
  have hparts : ∀ part ∈ labels.flatMap SortedSet.toList, IsLine part := by
    intro part hpart
    obtain ⟨shown, hshown, hpart⟩ := List.mem_flatMap.mp hpart
    obtain ⟨value, hvalue, hcomes⟩ :=
      Inquiry.exists_of_mem_forall₂ (Inquiry.comes_mapM hlabels) hshown
    exact comes_labels (hvalues value hvalue) hcomes part hpart
  refine ⟨?_, _, rfl⟩
  rw [String.append_assoc]
  -- the identifier may end in a carriage return, but something follows it
  exact IsLine.prepend hanchor (by simp)
    (IsLine.append (by decide) (IsLine.join (by decide) hparts))

/-- **Results in words** are lines, one for each anchor, in their order. -/
theorem comes_wording (hplain : results.IsPlain) (hsome : results.isEmpty = false)
    (h : (wording language results).Comes index (index.Admits Lookup.FindsPlain) (.ok text)) :
    ∃ lines, text = join "\n" lines ∧ lines ≠ [] ∧ (∀ l ∈ lines, IsLine l) ∧
      List.Forall₂ Element.Heads results.anchors lines := by
  obtain ⟨lines, hlines, h⟩ := Inquiry.comes_bind_ok_iff.mp h
  obtain rfl := Inquiry.comes_pure_iff.mp h
  -- one line for each entry
  have hentries : List.Forall₂ (fun entry l => IsLine l ∧ entry.1.Heads l) results.toList lines := by
    have hboth := (List.forall₂_and_left _ _).mpr ⟨fun _ he => he, Inquiry.comes_mapM hlines⟩
    refine hboth.imp fun entry l hl => ?_
    have hfind : results.find? entry.1 = some entry.2 := SortedMap.find?_of_mem hl.1
    exact comes_line (hplain.anchors _ _ hfind) (hplain.values _ _ hfind) hl.2
  have hheads : List.Forall₂ Element.Heads results.anchors lines :=
    List.forall₂_map_left_iff.mpr (hentries.imp fun _ _ hl => hl.2)
  refine ⟨lines, rfl, ?_, fun l hl => ?_, hheads⟩
  · rintro rfl
    have hnone : results.anchors = [] := List.forall₂_nil_right_iff.mp hheads
    unfold ResultMap.isEmpty SortedMap.isEmpty at hsome
    rw [List.map_eq_nil_iff.mp hnone] at hsome
    cases hsome
  · obtain ⟨_, _, hone, _⟩ := Inquiry.exists_of_mem_forall₂ hentries hl
    exact hone

end Engine

end GraphAnswers
