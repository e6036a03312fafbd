import GraphAnswers.Engine
import GraphAnswers.Proofs.Inquiries
import GraphAnswers.Proofs.Outcomes
import GraphAnswers.Proofs.SortedMap
/-!
# Which fields a question asks for

An inquiry is data, so it can be told which fields it may look up, whatever the outcomes on the way
are (`Inquiry.AsksOnly`).  A question asks for labels, types, the place of birth, and what the
catalog names, and for nothing else (`Engine.asksOnly_answerIn`): neither a form that falls back on
another look-up, nor the check whether a topic is a person, nor the way the results are put into
words goes beyond these fields.  Two indexes that agree there cannot be told apart by a question
(`Inquiry.AsksOnly.run_eq`).
-/
namespace GraphAnswers

namespace Inquiry

variable {α β : Type} {fields : List String}

/-- Whether every look-up of values in an inquiry is for one of these fields. -/
inductive AsksOnly (fields : List String) {α : Type} : Inquiry α → Prop where
  | done {outcome : Except Failure α} : AsksOnly fields (.done outcome)
  | property {lookup : Lookup} {next : Except Failure (SortedSet String) → Inquiry α} :
      lookup.field ∈ fields → (∀ outcome, AsksOnly fields (next outcome)) →
      AsksOnly fields (.property lookup next)
  | topics {term : String} {language : Language}
      {next : Except Failure (SortedSet Element) → Inquiry α} :
      (∀ outcome, AsksOnly fields (next outcome)) → AsksOnly fields (.topics term language next)

/-- Whether two indexes agree about these fields and about topics. -/
structure AgreeOn (fields : List String) (a b : Index) : Prop where
  property : ∀ lookup, lookup.field ∈ fields → a.property lookup = b.property lookup
  topics : ∀ term language, a.topics term language = b.topics term language

/-- **An inquiry comes to the same on indexes that agree where it asks**, a failure included. -/
theorem AsksOnly.run_eq {x : Inquiry α} (hx : x.AsksOnly fields) {a b : Index}
    (h : AgreeOn fields a b) : x.run a = x.run b := by
  induction hx with
  | done => rfl
  | @property lookup next hfield _ ih =>
    show (next (a.property lookup)).run a = (next (b.property lookup)).run b
    rw [h.property lookup hfield]
    exact ih _
  | @topics term language next _ ih =>
    show (next (a.topics term language)).run a = (next (b.topics term language)).run b
    rw [h.topics term language]
    exact ih _

/-! ### Inquiries in steps -/

theorem AsksOnly.continueWith {x : Inquiry α} {f : Except Failure α → Inquiry β}
    (hx : x.AsksOnly fields) (hf : ∀ outcome, (f outcome).AsksOnly fields) :
    (x.continueWith f).AsksOnly fields := by
  induction hx with
  | done => exact hf _
  | property hfield _ ih => exact .property hfield ih
  | topics _ ih => exact .topics ih

theorem AsksOnly.bind {x : Inquiry α} {f : α → Inquiry β} (hx : x.AsksOnly fields)
    (hf : ∀ a, (f a).AsksOnly fields) : (x >>= f).AsksOnly fields := by
  refine hx.continueWith fun outcome => ?_
  cases outcome with
  | ok a => exact hf a
  | error failure => exact .done

theorem asksOnly_pure (a : α) : (pure a : Inquiry α).AsksOnly fields := .done

theorem asksOnly_ofExcept (outcome : Except Failure α) : (ofExcept outcome).AsksOnly fields := .done

/-- What comes after an outcome that is known need only be right for that one. -/
theorem asksOnly_ofExcept_bind {outcome : Except Failure α} {f : α → Inquiry β}
    (hf : ∀ a, outcome = .ok a → (f a).AsksOnly fields) :
    (ofExcept outcome >>= f).AsksOnly fields := by
  cases outcome with
  | ok a => exact hf a rfl
  | error failure => exact .done

theorem asksOnly_values {lookup : Lookup} (h : lookup.field ∈ fields) :
    (values lookup).AsksOnly fields := .property h fun _ => .done

theorem asksOnly_candidates (term : String) (language : Language) :
    (candidates term language).AsksOnly fields := .topics fun _ => .done

theorem AsksOnly.attempt {x : Inquiry α} (hx : x.AsksOnly fields) : x.attempt.AsksOnly fields :=
  hx.continueWith fun _ => .done

theorem AsksOnly.ifFound {x : Inquiry α} (hx : x.AsksOnly fields) : x.ifFound.AsksOnly fields := by
  refine hx.continueWith fun outcome => ?_
  cases outcome with
  | ok a => exact .done
  | error failure => cases failure <;> exact .done

theorem asksOnly_foldlM {f : β → α → Inquiry β} (hf : ∀ b a, (f b a).AsksOnly fields) (l : List α)
    (b : β) : (l.foldlM f b).AsksOnly fields := by
  induction l generalizing b with
  | nil => exact asksOnly_pure b
  | cons a l ih =>
    rw [List.foldlM_cons]
    exact (hf b a).bind ih

theorem asksOnly_mapM {f : α → Inquiry β} (hf : ∀ a, (f a).AsksOnly fields) (l : List α) :
    (l.mapM f).AsksOnly fields := by
  induction l with
  | nil => exact asksOnly_pure []
  | cons a l ih =>
    rw [List.mapM_cons]
    exact (hf a).bind fun b => ih.bind fun rest => asksOnly_pure (b :: rest)

/-! ### What is asked about an element -/

theorem asksOnly_elements (kind : ElementKind) {lookup : Lookup} (h : lookup.field ∈ fields) :
    (elements kind lookup).AsksOnly fields :=
  (asksOnly_values h).bind fun _ => asksOnly_ofExcept _

theorem asksOnly_isPerson (htype : Field.type ∈ fields) (e : Element) :
    (isPerson e).AsksOnly fields := by
  unfold isPerson
  split
  · refine (asksOnly_values htype).ifFound.bind fun found => ?_
    cases found with
    | some types => exact asksOnly_pure _
    | none => exact asksOnly_pure _
  · exact asksOnly_pure _

theorem asksOnly_labels (hlabel : Field.label ∈ fields) (e : Element) (language : Language) :
    (labels e language).AsksOnly fields := by
  unfold labels
  split
  · exact asksOnly_pure _
  · exact (asksOnly_values hlabel).bind fun _ => asksOnly_ofExcept _

end Inquiry

/-! ### What the engine asks -/

/-- The fields that a catalog names: predicates, and the ways to the nodes in between. -/
def Catalog.fields (c : Catalog) : List String :=
  c.toList.flatMap fun e => e.2.predicate :: e.2.collection.toList

theorem Catalog.mem_toList_of_lookup {c : Catalog} {term : String} {entry : Catalog.Entry}
    (h : c.lookup term = .ok entry) : (term, entry) ∈ c.toList := by
  unfold Catalog.lookup at h
  split at h
  · rename_i found hfound
    cases h
    exact SortedMap.mem_of_find? hfound
  · cases h

theorem Catalog.predicate_mem_fields {c : Catalog} {term : String} {entry : Catalog.Entry}
    (h : c.lookup term = .ok entry) : entry.predicate ∈ c.fields :=
  List.mem_flatMap.mpr ⟨_, mem_toList_of_lookup h, List.mem_cons_self⟩

theorem Catalog.collection_mem_fields {c : Catalog} {term collection : String}
    {entry : Catalog.Entry} (h : c.lookup term = .ok entry)
    (hcollection : entry.collection = some collection) : collection ∈ c.fields :=
  List.mem_flatMap.mpr ⟨_, mem_toList_of_lookup h, List.mem_cons_of_mem _ (by simp [hcollection])⟩

namespace Engine

open Inquiry

/-- The fields that the questions of an engine ask for. -/
def fields (engine : Engine) : List String :=
  [Field.label, Field.type, Field.birthplace] ++ engine.catalog.fields

variable {engine : Engine} {fields : List String}

theorem asksOnly_accepts (htype : Field.type ∈ fields) (filter : PersonFilter) (e : Element) :
    (accepts filter e).AsksOnly fields := by
  cases filter with
  | any => exact asksOnly_pure true
  | _ => exact (asksOnly_isPerson htype e).bind fun _ => asksOnly_pure _

theorem asksOnly_collect (htype : Field.type ∈ fields) (candidates : SortedSet Element)
    (kind : ElementKind) {field : String} (hfield : field ∈ fields) (filter : PersonFilter) :
    (collect candidates kind field filter).AsksOnly fields := by
  have hone (c : Collected) (e : Element) :
      (collectOne kind field filter c e).AsksOnly fields := by
    refine (asksOnly_accepts htype filter e).bind fun accepted => ?_
    cases accepted with
    | true =>
      refine (asksOnly_elements kind hfield).ifFound.bind fun found => ?_
      cases found with
      | some values => exact asksOnly_pure _
      | none => exact asksOnly_pure _
    | false => exact asksOnly_pure _
  exact (asksOnly_foldlM hone _ _).bind fun _ => asksOnly_ofExcept _

theorem asksOnly_expand {field : String} (hfield : field ∈ fields) (elements : SortedSet Element)
    (start : Expanded) : (expand field elements start).AsksOnly fields :=
  asksOnly_foldlM
    (fun _ _ => (asksOnly_elements .topic hfield).attempt.bind fun _ => asksOnly_pure _) _ _

theorem asksOnly_throughNodes (candidates : SortedSet Element) {collection predicate : String}
    (hcollection : collection ∈ fields) (hpredicate : predicate ∈ fields) :
    (throughNodes candidates collection predicate).AsksOnly fields := by
  refine (asksOnly_expand hcollection _ _).bind fun reached => ?_
  refine (asksOnly_expand hpredicate _ _).bind fun valued => ?_
  dsimp only
  split
  · exact .done
  · exact asksOnly_pure _

/-- A starring question that finds nothing at the candidates themselves goes on to the nodes of the
same entry. -/
theorem asksOnly_starring (hfields : engine.fields ⊆ fields) (term anchor : String)
    (language : Language) : (engine.starring term anchor language).AsksOnly fields := by
  have htype : Field.type ∈ fields := hfields (by simp [Engine.fields])
  have hcatalog : engine.catalog.fields ⊆ fields :=
    fun f hf => hfields (by simp [Engine.fields, hf])
  refine asksOnly_ofExcept_bind fun entry hentry => ?_
  have hpredicate := hcatalog (Catalog.predicate_mem_fields hentry)
  refine (asksOnly_candidates anchor language).bind fun candidates => ?_
  refine (asksOnly_collect htype candidates .topic hpredicate .any).ifFound.bind fun direct => ?_
  rcases direct with _ | results
  · dsimp only
    split
    · exact .done
    · rename_i collection hcollection
      exact asksOnly_throughNodes candidates
        (hcatalog (Catalog.collection_mem_fields hentry hcollection)) hpredicate
  · exact asksOnly_pure results

theorem asksOnly_resolve (hfields : engine.fields ⊆ fields) (language : Language)
    (template : Template) : (engine.resolve language template).AsksOnly fields := by
  have htype : Field.type ∈ fields := hfields (by simp [Engine.fields])
  have hbirthplace : Field.birthplace ∈ fields := hfields (by simp [Engine.fields])
  cases template with
  | typeOf anchor filter =>
    exact (asksOnly_candidates anchor language).bind fun candidates =>
      asksOnly_collect htype candidates .type htype filter
  | birthplace anchor =>
    exact (asksOnly_candidates anchor language).bind fun candidates =>
      asksOnly_collect htype candidates .topic hbirthplace .persons
  | property term anchor =>
    refine asksOnly_ofExcept_bind fun predicate hpredicate => ?_
    obtain ⟨entry, hentry, hpure⟩ := bind_ok_iff.mp hpredicate
    cases hpure
    have hnamed : entry.predicate ∈ fields :=
      hfields (by simp [Engine.fields, Catalog.predicate_mem_fields hentry])
    exact (asksOnly_candidates anchor language).bind fun candidates =>
      asksOnly_collect htype candidates .topic hnamed .nonPersons
  | starring term anchor => exact asksOnly_starring hfields term anchor language
  | quantity count term =>
    refine asksOnly_ofExcept_bind fun type _ => asksOnly_ofExcept_bind fun key _ => ?_
    exact (asksOnly_elements .topic htype).bind fun topics => asksOnly_pure _

/-- **A question asks only for the fields of the engine.** -/
theorem asksOnly_queryIn (hfields : engine.fields ⊆ fields) (language : Language)
    (question : String) : (engine.queryIn language question).AsksOnly fields :=
  asksOnly_ofExcept_bind fun template _ => asksOnly_resolve hfields language template

/-- Putting the results into words asks for labels. -/
theorem asksOnly_wording (hlabel : Field.label ∈ fields) (language : Language)
    (results : ResultMap) : (wording language results).AsksOnly fields := by
  have hline (anchor : Element) (values : SortedSet Element) :
      (line language anchor values).AsksOnly fields :=
    (asksOnly_mapM (fun value => asksOnly_labels hlabel value language) _).bind fun _ =>
      asksOnly_pure _
  have hlines := asksOnly_mapM fun entry : Element × SortedSet Element => hline entry.1 entry.2
  exact (hlines _).bind fun _ => asksOnly_pure _

theorem asksOnly_answerIn (hfields : engine.fields ⊆ fields) (language : Language)
    (question : String) : (engine.answerIn language question).AsksOnly fields :=
  (asksOnly_queryIn hfields language question).bind fun results =>
    asksOnly_wording (hfields (by simp [Engine.fields])) language results

end Engine

end GraphAnswers
