import GraphAnswers.Index
/-!
# What is asked about an element

The inquiries that every index answers by way of its two look-ups: the elements related to an
anchor, whether a topic is a person, the labels of an element in a language, and its description.
-/
namespace GraphAnswers

namespace Field

/-- The field of an element's types. -/
def type : String := "type"

/-- The field of language-tagged labels. -/
def label : String := "label"

/-- The field of language-tagged descriptions. -/
def description : String := "common.topic.description"

/-- The field of a person's place of birth. -/
def birthplace : String := "people.person.place_of_birth"

end Field

/-- The type that makes a topic a person. -/
def personType : String := "people person"

namespace Inquiry

/-- The elements of a kind that a look-up gives. -/
def elements (kind : ElementKind) (lookup : Lookup) : Inquiry (SortedSet Element) := do
  ofExcept (Element.ofIds kind (← values lookup))

/-- The elements of a kind related to an element through a field. -/
def related (kind : ElementKind) (field : String) (e : Element) : Inquiry (SortedSet Element) :=
  elements kind ⟨field, e.id, .subject⟩

/-- Whether an element is a person; a type never is. -/
def isPerson (e : Element) : Inquiry Bool :=
  if e.isTopic then do
    match ← ifFound (values ⟨Field.type, e.id, .subject⟩) with
    | some types => pure (types.contains personType)
    | none => pure false
  else pure false

/-- The texts in one language among language-tagged values. -/
def displayed (language : Language) : List String → Except Failure (SortedSet String)
  | [] => .ok .empty
  | value :: rest => do
    let text ← language.display value
    let others ← displayed language rest
    pure (match text with
      | some text => others.insert text
      | none => others)

/-- The values of a language-tagged field in one language. -/
def tagged (field : String) (e : Element) (language : Language) : Inquiry (SortedSet String) := do
  let found ← values ⟨field, e.id, .subject⟩
  ofExcept (displayed language found.toList)

/-- The labels of an element in a language.  A type is its own label. -/
def labels (e : Element) (language : Language) : Inquiry (SortedSet String) :=
  match e.kind with
  | .type => pure (.singleton e.id)
  | .topic => tagged Field.label e language

/-- The description of an element in a language: the last one, if there are several. -/
def description (e : Element) (language : Language) : Inquiry String := do
  match (← tagged Field.description e language).last? with
  | some text => pure text
  | none => fail .notFound

end Inquiry

end GraphAnswers
