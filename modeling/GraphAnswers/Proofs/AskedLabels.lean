import GraphAnswers.Proofs.Agreement
import GraphAnswers.Proofs.OnePredicate
import GraphAnswers.Proofs.QuestionLayout
/-!
# Which labels can be asked for

"What is X ?" is read with the words of X for its anchor (`Question.template_whatIs`), and a topic is
among the candidates if it is labelled with just this anchor.  So a label can be asked for unless
question marks in it are taken for those of a question: a word of its own that consists of them, or
some at its end (`Question.label_asked_for`).  Which words a label has besides makes no difference,
and neither does its language.
-/
namespace GraphAnswers

open Text

/-! ### Indexes and what they hold -/

/-- **Whether an index answers from a set of triples**, held in memory or in the rows of a file. -/
inductive Index.IsOver (triples : TripleSet) : Index → Prop
  | memory : IsOver triples triples.index
  | file {d : Database} (rows : d.needRows = .ok ()) (holds : d.store.triples = triples) :
      IsOver triples d.index

theorem Index.IsOver.eq {triples : TripleSet} {index : Index} (h : index.IsOver triples) :
    index = triples.index := by
  cases h with
  | memory => rfl
  | file rows holds => rw [Database.index_eq_of_needRows rows, holds]

namespace TripleSet

variable {triples : TripleSet} {language : Language} {anchor : String} {topic : Element}

/-- Where some subject is labelled with an anchor, all candidates are. -/
theorem isCandidate_iff_of_label {subject : String}
    (h : Triple.mk subject Field.label (language.mark anchor) ∈ triples) (other : String) :
    triples.IsCandidate language anchor other ↔
      Triple.mk other Field.label (language.mark anchor) ∈ triples := by
  constructor
  · rintro (hlabel | ⟨hnone, _⟩)
    · exact hlabel
    · exact absurd h (hnone subject)
  · exact .inl

/-- **A topic is among the candidates for its label**, if every subject with this label is a topic. -/
theorem topics_ok (htopic : topic.kind = .topic)
    (h : Triple.mk topic.id Field.label (language.mark anchor) ∈ triples)
    (hall : ∀ other, Triple.mk other Field.label (language.mark anchor) ∈ triples →
      ElementKind.topic.admits other = true) :
    ∃ found, triples.index.topics anchor language = .ok found ∧ topic ∈ found := by
  have hmem (other : String) : other ∈ triples.candidates language anchor ↔
      Triple.mk other Field.label (language.mark anchor) ∈ triples :=
    mem_candidates.trans (isCandidate_iff_of_label h other)
  have hadmitted : ∀ id ∈ triples.candidates language anchor, ElementKind.topic.admits id = true :=
    fun id hid => hall id ((hmem id).mp hid)
  obtain ⟨found, hfound, hin⟩ := Element.ofIds_ok hadmitted
  refine ⟨found, ?_, (hin topic).mpr ⟨htopic, (hmem topic.id).mpr h⟩⟩
  rw [index_topics, nonEmpty_ok_iff.mpr ⟨rfl, topic.id, (hmem topic.id).mpr h⟩]
  exact hfound

/-- One subject with a label that is no topic stands in the way of all others. -/
theorem topics_error {other : String}
    (h : Triple.mk other Field.label (language.mark anchor) ∈ triples)
    (hother : ElementKind.topic.admits other = false) :
    ∃ detail, triples.index.topics anchor language = .error (.invalidIdentifier detail) := by
  have hmem : other ∈ triples.candidates language anchor := mem_candidates.mpr (.inl h)
  obtain ⟨detail, hdetail⟩ := Element.ofIds_error hmem hother
  refine ⟨detail, ?_⟩
  rw [index_topics, nonEmpty_ok_iff.mpr ⟨rfl, other, hmem⟩]
  exact hdetail

end TripleSet

namespace Question

/-! ### Questions for the types of a thing -/

theorem words_whatIs (text : String) : words ("What is " ++ text) = "What" :: "is" :: words text := by
  have hwords : Text.words ("What is " ++ text) = "What" :: "is" :: Text.words text := by
    have hopening : Text.words "What is" = ["What", "is"] := by decide
    have hjoin : "What is " ++ text = "What is" ++ " " ++ text := rfl
    rw [hjoin, words_append_space, hopening]
    rfl
  have hkept : ("What" :: "is" :: Text.words text).filter (fun w => !isMarks w) =
      "What" :: "is" :: (Text.words text).filter fun w => !isMarks w := by
    have hplain : isMarks "What" = false ∧ isMarks "is" = false := by decide
    simp [hplain]
  unfold words
  rw [hwords, hkept]
  by_cases hnil : ((Text.words text).filter fun w => !isMarks w) = []
  · rw [hnil]
    decide
  · rw [stripMarks_cons _ (by simp), stripMarks_cons _ hnil]

/-- **"What is X ?" asks for the words of X**, whatever they are, unless there are none. -/
theorem template_whatIs (text : String) :
    template ("What is " ++ text ++ " ?") =
      if words text = [] then .error .malformedQuestion
      else .ok (.typeOf (unwords (words text)) .nonPersons) := by
  have hclosing : ∀ c ∈ " ?".toList, isBlank c = true ∨ c = '?' := by simp [isBlank]
  unfold template
  rw [words_append_closing _ hclosing, words_whatIs]
  by_cases hnil : words text = []
  · rw [if_pos hnil, hnil]
    rfl
  · rw [if_neg hnil, classify_whatIs hnil]

/-- **Whether words are left as they are in a question**: none consists of question marks only, and
the last one does not end in one. -/
structure AreKept (ws : List String) : Prop where
  notMarks : ∀ w ∈ ws, isMarks w = false
  endsPlainly : EndsPlainly ws

variable {ws : List String}

theorem words_unwords_iff (h : ∀ w ∈ ws, Text.IsWord w) :
    words (unwords ws) = ws ↔ AreKept ws := by
  constructor
  · intro hsame
    obtain ⟨hwords, hend⟩ :
        (∀ w ∈ words (unwords ws), IsWord w) ∧ EndsPlainly (words (unwords ws)) := isWord_of_mem_words
    rw [hsame] at hwords hend
    exact ⟨fun w hw => (hwords w hw).notMarks, hend⟩
  · intro hkept
    by_cases hnil : ws = []
    · rw [hnil]
      rfl
    · exact (words_sentence hnil (fun w hw => ⟨(h w hw).solid, hkept.notMarks w hw⟩)
        hkept.endsPlainly).1

/-- The words of a text that are asked for are the text only if they are all of its words. -/
theorem unwords_words_iff (h : ∀ w ∈ ws, Text.IsWord w) :
    unwords (words (unwords ws)) = unwords ws ↔ AreKept ws := by
  rw [← words_unwords_iff h]
  constructor
  · intro hjoined
    have hsame := congrArg Text.words hjoined
    rwa [words_unwords fun w hw => (isWord_of_mem_words.1 w hw).isWord, words_unwords h] at hsame
  · intro hsame
    rw [hsame]

/-- What a question for the types of a thing comes to. -/
theorem run_queryIn_whatIs {text : String}
    (h : template ("What is " ++ text ++ " ?") = .ok (.typeOf text .nonPersons)) (engine : Engine)
    (language : Language) (index : Index) :
    (engine.queryIn language ("What is " ++ text ++ " ?")).run index =
      (index.topics text language).bind fun candidates =>
        (Engine.collect candidates .type Field.type .nonPersons).run index := by
  unfold Engine.queryIn
  rw [Inquiry.run_bind, h]
  have hasked : (Template.typeOf text .nonPersons).onePredicate? engine.catalog =
      some ⟨.type, Field.type, .nonPersons, text⟩ := rfl
  exact Engine.run_resolve hasked language index

/-- **Which labels can be asked for.**  Put into the question "What is X ?", a text is read as the
anchor exactly if its words are kept; otherwise what is left of them is, and if that is nothing, the
question is malformed.  A topic that has the text for a label, in whichever language, is among the
candidates of the question then, if each subject with this label is a topic; and if one is not, that
is the failure of the question. -/
theorem label_asked_for (hne : ws ≠ []) (hws : ∀ w ∈ ws, Text.IsWord w) :
    (template ("What is " ++ unwords ws ++ " ?") = .ok (.typeOf (unwords ws) .nonPersons) ↔
      AreKept ws) ∧
    (template ("What is " ++ unwords ws ++ " ?") =
      if words (unwords ws) = [] then .error .malformedQuestion
      else .ok (.typeOf (unwords (words (unwords ws))) .nonPersons)) ∧
    (AreKept ws → ∀ (triples : TripleSet) index, index.IsOver triples →
      ∀ (language : Language) (topic : Element), topic.kind = .topic →
      Triple.mk topic.id Field.label (language.mark (unwords ws)) ∈ triples →
      ((∀ other, Triple.mk other Field.label (language.mark (unwords ws)) ∈ triples →
          ElementKind.topic.admits other = true) →
        ∃ candidates, index.topics (unwords ws) language = .ok candidates ∧ topic ∈ candidates ∧
          ∀ engine : Engine,
            (engine.queryIn language ("What is " ++ unwords ws ++ " ?")).run index =
              (Engine.collect candidates .type Field.type .nonPersons).run index) ∧
      ∀ other, Triple.mk other Field.label (language.mark (unwords ws)) ∈ triples →
        ElementKind.topic.admits other = false →
        ∃ detail, ∀ engine : Engine,
          (engine.queryIn language ("What is " ++ unwords ws ++ " ?")).run index =
            .error (.invalidIdentifier detail)) := by
  have hread : template ("What is " ++ unwords ws ++ " ?") = .ok (.typeOf (unwords ws) .nonPersons) ↔
      AreKept ws := by
    rw [template_whatIs, ← unwords_words_iff hws]
    by_cases hnil : words (unwords ws) = []
    · -- a question of which nothing is left is none, and the text is not empty
      rw [if_pos hnil, hnil]
      refine iff_of_false (fun h => by cases h) fun hempty => ?_
      have hwords := congrArg Text.words hempty
      rw [words_unwords hws] at hwords
      exact hne hwords.symm
    · rw [if_neg hnil]
      simp
  refine ⟨hread, template_whatIs _, fun hkept triples index hover language topic htopic hlabel => ?_⟩
  obtain rfl := hover.eq
  have hrun := run_queryIn_whatIs (hread.mpr hkept)
  refine ⟨fun hall => ?_, fun other hother hbad => ?_⟩
  · obtain ⟨candidates, hcandidates, hmem⟩ := TripleSet.topics_ok htopic hlabel hall
    refine ⟨candidates, hcandidates, hmem, fun engine => ?_⟩
    rw [hrun engine language, hcandidates]
    rfl
  · obtain ⟨detail, hdetail⟩ := TripleSet.topics_error hother hbad
    refine ⟨detail, fun engine => ?_⟩
    rw [hrun engine language, hdetail]
    rfl

/-- Subjects with one label. -/
def labelled (label : String) (subjects : List String) : TripleSet :=
  .ofList (subjects.map fun subject => ⟨subject, Field.label, label⟩)

theorem label_asked_for_isIt :
    AreKept ["Is", "it?", "Who", "of", "has"] ∧
      template "What is Is it? Who of has ?" = .ok (.typeOf "Is it? Who of has" .nonPersons) ∧
      ∃ candidates, (labelled "Is it? Who of has @pt-br" ["m.1", "m.2"]).index.topics
          "Is it? Who of has" ⟨"pt-br"⟩ = .ok candidates ∧
        ⟨.topic, "m.1", by decide⟩ ∈ candidates := by
  have hkept : AreKept ["Is", "it?", "Who", "of", "has"] := by
    refine ⟨by decide, ?_⟩
    unfold EndsPlainly
    decide
  have hwords : ∀ w ∈ ["Is", "it?", "Who", "of", "has"], Text.IsWord w := by decide
  obtain ⟨hread, _, hasked⟩ := label_asked_for (List.cons_ne_nil _ _) hwords
  have hmem (subject : String) :
      Triple.mk subject Field.label "Is it? Who of has @pt-br" ∈
        labelled "Is it? Who of has @pt-br" ["m.1", "m.2"] ↔ subject ∈ ["m.1", "m.2"] := by
    unfold labelled
    rw [SortedSet.mem_ofList, List.mem_map]
    simp
  have hcandidates := (hasked hkept _ _ .memory ⟨"pt-br"⟩ ⟨.topic, "m.1", by decide⟩ rfl
    ((hmem "m.1").mpr (by decide))).1
  obtain ⟨candidates, hfound, hin, _⟩ := hcandidates fun other hother => by
    have hsubjects : ∀ s ∈ ["m.1", "m.2"], ElementKind.topic.admits s = true := by decide
    exact hsubjects other ((hmem other).mp hother)
  exact ⟨hkept, hread.mpr hkept, candidates, hfound, hin⟩

/-- **A label that ends in a question mark is not found, and neither is one that an improper subject
has as well.**  The mark is taken for that of the question, so another text is looked up. -/
theorem question_mark_in_label :
    ((∀ w ∈ ["Guess", "Who?"], Text.IsWord w) ∧
      Triple.mk "m.1" Field.label (Language.english.mark "Guess Who?") ∈
        labelled "Guess Who? @en" ["m.1"] ∧
      template "What is Guess Who? ?" = .ok (.typeOf "Guess Who" .nonPersons) ∧
      (({} : Engine).queryIn .english "What is Guess Who? ?").run
        (labelled "Guess Who? @en" ["m.1"]).index = .error .notFound) ∧
    Triple.mk "m.1" Field.label (Language.english.mark "Jaws") ∈ labelled "Jaws @en" ["m.1", "x"] ∧
      (({} : Engine).queryIn .english "What is Jaws ?").run
        (labelled "Jaws @en" ["m.1", "x"]).index =
          .error (.invalidIdentifier "'x' is not a topic") := by
  refine ⟨⟨by decide, ?_, rfl, rfl⟩, ?_, rfl⟩
  · exact SortedSet.mem_ofList.mpr (by decide)
  · exact SortedSet.mem_ofList.mpr (by decide)

end Question

end GraphAnswers
