import GraphAnswers.Engine
import GraphAnswers.Proofs.Inquiries
import GraphAnswers.Proofs.Lookups
import GraphAnswers.Proofs.Margins
import GraphAnswers.Proofs.Outcomes
/-!
# The labels of what is answered

An answer tells its values by their labels, and a value whose labels cannot be looked up or cannot
be read fails the whole answer (`Engine.answerIn_labels`); of several such values the first one in
the order of the answer counts.  There is one gap.  A topic whose labels are all in other languages
(`Index.LacksLanguage`) does not count as one without a label: the answer succeeds, and its line
leaves the topic out (`Engine.genre_left_out`).
-/
namespace GraphAnswers

namespace Index

variable (index : Index) (language : Language) (e : Element)

/-- Whether an element has a label in a language.  A type is its own label. -/
def HasLabel (label : String) : Prop :=
  match e.kind with
  | .type => label = e.id
  | .topic => ∃ stored, index.property ⟨Field.label, e.id, .subject⟩ = .ok stored ∧
      ∃ raw ∈ stored, language.display raw = .ok (some label)

/-- Whether a topic has stored labels that are all in other languages. -/
def LacksLanguage : Prop :=
  e.kind = .topic ∧ ∃ stored, index.property ⟨Field.label, e.id, .subject⟩ = .ok stored ∧
    ∀ raw ∈ stored, language.display raw = .ok none

/-- **Why the labels of a topic cannot be told**: they cannot be looked up, or one has no tag; of
several without a tag the first one counts. -/
inductive LabelsFail : Failure → Prop
  | lookup {failure : Failure} (topic : e.kind = .topic)
      (failed : index.property ⟨Field.label, e.id, .subject⟩ = .error failure) :
      LabelsFail failure
  | untagged {stored : SortedSet String} {before after : List String} {raw : String}
      (topic : e.kind = .topic)
      (found : index.property ⟨Field.label, e.id, .subject⟩ = .ok stored)
      (split : stored.toList = before ++ raw :: after)
      (earlier : ∀ r ∈ before, '@' ∈ r.toList) (untagged : '@' ∉ raw.toList) :
      LabelsFail (.untaggedLabel raw)

/-- The labels of an element, as they are asked for. -/
def labelsOf : Except Failure (SortedSet String) := (Inquiry.labels e language).run index

end Index

/-! ### The labels of one element -/

theorem Language.display_error_iff {language : Language} {raw : String} {failure : Failure} :
    language.display raw = .error failure ↔ '@' ∉ raw.toList ∧ failure = .untaggedLabel raw := by
  unfold Language.display
  cases hsplit : Text.splitLast? '@' raw.toList with
  | none =>
    rw [and_iff_right (Text.splitLast?_eq_none_iff.mp hsplit)]
    exact ⟨fun h => (Except.error.inj h).symm, fun h => congrArg _ h.symm⟩
  | some parts =>
    obtain ⟨text, code⟩ := parts
    refine iff_of_false ?_ fun h => ?_
    · dsimp only
      split
      · exact fun h => by cases h
      · exact fun h => by cases h
    · rw [Text.splitLast?_eq_none_iff.mpr h.1] at hsplit
      cases hsplit

theorem Language.display_ok_iff {language : Language} {raw : String} :
    (∃ text, language.display raw = .ok text) ↔ '@' ∈ raw.toList := by
  rw [exists_ok_iff]
  simp only [Ne, Language.display_error_iff, not_and]
  constructor
  · exact fun h => Classical.byContradiction fun hraw => h _ hraw rfl
  · exact fun h _ hraw => absurd h hraw

namespace Index

variable {index : Index} {language : Language} {e : Element} {failure : Failure}
  {shown : SortedSet String}

theorem labelsOf_type (he : e.kind = .type) :
    index.labelsOf language e = .ok (.singleton e.id) := by
  unfold labelsOf Inquiry.labels
  rw [he]
  rfl

theorem labelsOf_topic (he : e.kind = .topic) : index.labelsOf language e =
    (index.property ⟨Field.label, e.id, .subject⟩ >>= fun stored =>
      Inquiry.displayed language stored.toList) := by
  unfold labelsOf Inquiry.labels
  rw [he]
  exact Inquiry.run_bind index _ _

theorem labelsOf_error_iff :
    index.labelsOf language e = .error failure ↔ index.LabelsFail e failure := by
  cases he : e.kind with
  | type =>
    rw [labelsOf_type he]
    refine iff_of_false (fun h => by cases h) fun h => ?_
    cases h with
    | lookup topic _ => cases he.symm.trans topic
    | untagged topic _ _ _ _ => cases he.symm.trans topic
  | topic =>
    rw [labelsOf_topic he, bind_error_iff]
    constructor
    · rintro (h | ⟨stored, hstored, h⟩)
      · exact .lookup he h
      · obtain ⟨before, raw, after, hsplit, hbefore, hraw⟩ := Inquiry.displayed_error_iff.mp h
        obtain ⟨huntagged, rfl⟩ := Language.display_error_iff.mp hraw
        exact .untagged he hstored hsplit
          (fun r hr => Language.display_ok_iff.mp (hbefore r hr)) huntagged
    · intro h
      cases h with
      | lookup _ h => exact .inl h
      | untagged _ hstored hsplit hearlier huntagged =>
        refine .inr ⟨_, hstored, Inquiry.displayed_error_iff.mpr ⟨_, _, _, hsplit, ?_, ?_⟩⟩
        · exact fun r hr => Language.display_ok_iff.mpr (hearlier r hr)
        · exact Language.display_error_iff.mpr ⟨huntagged, rfl⟩

/-- The labels of an element can be told, unless there is a reason that they cannot. -/
theorem labelsOf_ok_iff : (∃ shown, index.labelsOf language e = .ok shown) ↔
    ∀ failure, ¬index.LabelsFail e failure := by
  rw [exists_ok_iff]
  exact forall_congr' fun failure => not_congr labelsOf_error_iff

/-- The stored labels of a topic, all of which can be read. -/
theorem displayed_of_labelsOf (he : e.kind = .topic) (h : index.labelsOf language e = .ok shown) :
    ∃ stored, index.property ⟨Field.label, e.id, .subject⟩ = .ok stored ∧
      (∀ raw ∈ stored, ∃ text, language.display raw = .ok text) ∧
      ∀ label, label ∈ shown ↔ ∃ raw ∈ stored, language.display raw = .ok (some label) := by
  rw [labelsOf_topic he] at h
  obtain ⟨stored, hstored, hshown⟩ := bind_ok_iff.mp h
  exact ⟨stored, hstored, Inquiry.of_displayed_ok hshown⟩

/-- What is told of an element are its labels in the language. -/
theorem mem_labelsOf (h : index.labelsOf language e = .ok shown) (label : String) :
    label ∈ shown ↔ index.HasLabel language e label := by
  unfold HasLabel
  cases he : e.kind with
  | type =>
    rw [labelsOf_type he] at h
    cases h
    exact List.mem_singleton
  | topic =>
    obtain ⟨stored, hstored, _, hmem⟩ := displayed_of_labelsOf he h
    rw [hmem]
    dsimp only
    constructor
    · exact fun h => ⟨stored, hstored, h⟩
    · rintro ⟨stored', hstored', h⟩
      cases hstored.symm.trans hstored'
      exact h

/-- **The gap**: an element whose labels can be told has one, unless its labels are all in other
languages. -/
theorem exists_label_or_lacksLanguage (h : index.labelsOf language e = .ok shown) :
    (∃ label, index.HasLabel language e label) ∨ index.LacksLanguage language e := by
  cases he : e.kind with
  | type =>
    rw [labelsOf_type he] at h
    cases h
    exact .inl ⟨e.id, (mem_labelsOf (labelsOf_type he) e.id).mp (List.mem_singleton_self e.id)⟩
  | topic =>
    by_cases hlabel : ∃ label, index.HasLabel language e label
    · exact .inl hlabel
    · obtain ⟨stored, hstored, hread, hmem⟩ := displayed_of_labelsOf he h
      refine .inr ⟨he, stored, hstored, fun raw hraw => ?_⟩
      obtain ⟨text, htext⟩ := hread raw hraw
      cases text with
      | none => exact htext
      | some label =>
        exact absurd ⟨label, (mem_labelsOf h label).mp ((hmem label).mpr ⟨raw, hraw, htext⟩)⟩ hlabel

end Index

/-! ### The labels of results -/

namespace ResultMap

/-- The values of results, in the order in which an answer goes through them. -/
def values (m : ResultMap) : List Element := m.toList.flatMap fun entry => entry.2.toList

/-- Results in words, given what is told of each value. -/
def inWords (m : ResultMap) (told : Element → SortedSet String) : String :=
  Text.join "\n" (m.toList.map fun entry =>
    entry.1.id ++ ": " ++ Text.join ", " (entry.2.toList.flatMap fun value => (told value).toList))

theorem mem_values_of_mem {m : ResultMap} {entry : Element × SortedSet Element} {value : Element}
    (hentry : entry ∈ m.toList) (hvalue : value ∈ entry.2.toList) : value ∈ m.values :=
  List.mem_flatMap.mpr ⟨entry, hentry, hvalue⟩

theorem inWords_congr {m : ResultMap} {told told' : Element → SortedSet String}
    (h : ∀ value ∈ m.values, told value = told' value) : m.inWords told = m.inWords told' := by
  unfold inWords
  congr 1
  refine List.map_congr_left fun entry hentry => ?_
  congr 2
  exact List.flatMap_congr fun value hvalue => by rw [h value (mem_values_of_mem hentry hvalue)]

end ResultMap

theorem Inquiry.run_mapM {α β : Type} (index : Index) (f : α → Inquiry β) (l : List α) :
    (l.mapM f).run index = l.mapM fun a => (f a).run index := by
  induction l with
  | nil => rfl
  | cons a l ih =>
    rw [List.mapM_cons, List.mapM_cons, run_bind]
    refine congrArg _ (funext fun b => ?_)
    rw [run_bind, ih]
    rfl

namespace Engine

variable {index : Index} {language : Language} {results : ResultMap} {failure : Failure}

theorem run_line (anchor : Element) (values : SortedSet Element) :
    (line language anchor values).run index =
      (values.toList.mapM (index.labelsOf language) >>= fun labels =>
        .ok (anchor.id ++ ": " ++ Text.join ", " (labels.flatMap SortedSet.toList))) := by
  unfold line
  rw [Inquiry.run_bind, Inquiry.run_mapM]
  rfl

theorem run_wording : (wording language results).run index =
    ((results.toList.mapM fun entry => (line language entry.1 entry.2).run index) >>= fun lines =>
      .ok (Text.join "\n" lines)) := by
  unfold wording
  rw [Inquiry.run_bind, Inquiry.run_mapM]
  rfl

/-- Results cannot be put into words just if the labels of a value cannot be told. -/
theorem run_wording_error_iff : (wording language results).run index = .error failure ↔
    FirstFails (index.labelsOf language) results.values failure := by
  have hline (entry : Element × SortedSet Element) (failure : Failure) :
      (line language entry.1 entry.2).run index = .error failure ↔
        FirstFails (index.labelsOf language) entry.2.toList failure := by
    rw [run_line, bind_error_iff, mapM_error_iff]
    refine or_iff_left ?_
    rintro ⟨labels, _, h⟩
    cases h
  rw [run_wording, bind_error_iff, mapM_error_iff, firstFails_iff_flatMap hline]
  refine or_iff_left ?_
  rintro ⟨lines, _, h⟩
  cases h

theorem run_wording_eq {told : Element → SortedSet String}
    (h : ∀ value ∈ results.values, index.labelsOf language value = .ok (told value)) :
    (wording language results).run index = .ok (results.inWords told) := by
  have hline : ∀ entry ∈ results.toList, (line language entry.1 entry.2).run index =
      .ok (entry.1.id ++ ": " ++
        Text.join ", " (entry.2.toList.flatMap fun value => (told value).toList)) := by
    intro entry hentry
    rw [run_line,
      mapM_eq_map fun value hvalue => h value (ResultMap.mem_values_of_mem hentry hvalue)]
    show Except.ok _ = _
    rw [List.flatMap_map]
  rw [run_wording, mapM_eq_map hline]
  rfl

/-- **Results in words** tell the labels of each value in the language. -/
theorem run_wording_ok_iff {text : String} : (wording language results).run index = .ok text ↔
    (∀ value ∈ results.values, ∀ failure, ¬index.LabelsFail value failure) ∧
      ∃ told : Element → SortedSet String,
        (∀ value ∈ results.values, ∀ label,
          label ∈ told value ↔ index.HasLabel language value label) ∧
        text = results.inWords told := by
  -- what can be told is told by some function
  have htold (h : ∀ value ∈ results.values, ∀ failure, ¬index.LabelsFail value failure) :
      ∃ told : Element → SortedSet String,
        ∀ value ∈ results.values, index.labelsOf language value = .ok (told value) := by
    refine ⟨fun value => (index.labelsOf language value).toOption.getD .empty,
      fun value hvalue => ?_⟩
    obtain ⟨shown, hshown⟩ := Index.labelsOf_ok_iff.mpr (h value hvalue)
    dsimp only
    rw [hshown]
    rfl
  constructor
  · intro h
    have hread : ∀ value ∈ results.values, ∀ failure, ¬index.LabelsFail value failure := by
      have hok : ∀ value ∈ results.values, ∃ shown, index.labelsOf language value = .ok shown := by
        rw [forall_ok_iff]
        intro failure hfails
        rw [run_wording_error_iff.mpr hfails] at h
        cases h
      exact fun value hvalue => Index.labelsOf_ok_iff.mp (hok value hvalue)
    obtain ⟨told, hall⟩ := htold hread
    refine ⟨hread, told, fun value hvalue => Index.mem_labelsOf (hall value hvalue), ?_⟩
    rw [run_wording_eq hall] at h
    exact (Except.ok.inj h).symm
  · rintro ⟨hread, told, hlabels, rfl⟩
    obtain ⟨told', hall⟩ := htold hread
    rw [run_wording_eq hall]
    refine congrArg _ (ResultMap.inWords_congr fun value hvalue => SortedSet.ext fun label => ?_)
    rw [Index.mem_labelsOf (hall value hvalue), hlabels value hvalue]

/-- Results cannot be put into words just if there is a value whose labels cannot be told; the first
such value counts. -/
theorem run_wording_error_iff_exists : (wording language results).run index = .error failure ↔
    ∃ before value after, results.values = before ++ value :: after ∧
      (∀ earlier ∈ before, ∀ other, ¬index.LabelsFail earlier other) ∧
      index.LabelsFail value failure := by
  rw [run_wording_error_iff]
  unfold FirstFails
  simp only [Index.labelsOf_error_iff, Index.labelsOf_ok_iff]

/-- A value that has no label and does not lack the language fails, unless one before it does. -/
theorem exists_failing_of_noLabel {before after : List Element} {value : Element}
    (hsplit : results.values = before ++ value :: after)
    (hnone : ∀ label, ¬index.HasLabel language value label)
    (hlacks : ¬index.LacksLanguage language value) :
    ∃ failure, (wording language results).run index = .error failure ∧
      ∃ failing ∈ before ++ [value], index.LabelsFail failing failure := by
  have hvalue : ¬∃ shown, index.labelsOf language value = .ok shown := by
    rintro ⟨shown, hshown⟩
    rcases Index.exists_label_or_lacksLanguage hshown with ⟨label, hlabel⟩ | h
    · exact hnone label hlabel
    · exact hlacks h
  obtain ⟨failure, hfails⟩ :=
    exists_firstFails (List.mem_append_right before (List.mem_singleton_self value)) hvalue
  obtain ⟨failing, hmem, hfailing⟩ := hfails.exists_mem
  refine ⟨failure, ?_, failing, hmem, Index.labelsOf_error_iff.mp hfailing⟩
  rw [run_wording_error_iff, hsplit, List.append_cons]
  exact firstFails_append_iff.mpr (.inl hfails)

theorem run_answerIn (index : Index) (engine : Engine) (language : Language) (question : String) :
    (engine.answerIn language question).run index =
      ((engine.queryIn language question).run index >>= fun results =>
        (wording language results).run index) :=
  Inquiry.run_bind index _ _

/-- **An answer leaves no value out but those whose labels are in other languages.**  On every
index, where the results of a question cannot be had, its answer fails alike.  Else it is answered
just if the labels of each value can be told, and then each value is told by its labels in the
language; otherwise the failure is that of the first value whose labels cannot be told.  So each
value of an answer has a label in the language or lacks the language, and a value that has no label
and does not lack the language fails the answer, unless one before it does. -/
theorem answerIn_labels (index : Index) (engine : Engine) (language : Language)
    (question : String) :
    let outcome := (engine.queryIn language question).run index
    let answer := (engine.answerIn language question).run index
    (∀ failure, outcome = .error failure → answer = .error failure) ∧
    ∀ results, outcome = .ok results →
      (∀ text, answer = .ok text ↔
        (∀ value ∈ results.values, ∀ failure, ¬index.LabelsFail value failure) ∧
        ∃ told : Element → SortedSet String,
          (∀ value ∈ results.values, ∀ label,
            label ∈ told value ↔ index.HasLabel language value label) ∧
          text = results.inWords told) ∧
      (∀ failure, answer = .error failure ↔
        ∃ before value after, results.values = before ++ value :: after ∧
          (∀ earlier ∈ before, ∀ other, ¬index.LabelsFail earlier other) ∧
          index.LabelsFail value failure) ∧
      (∀ text, answer = .ok text → ∀ value ∈ results.values,
        (∃ label, index.HasLabel language value label) ∨ index.LacksLanguage language value) ∧
      ∀ before value after, results.values = before ++ value :: after →
        (∀ label, ¬index.HasLabel language value label) →
        index.LacksLanguage language value ∨
          ∃ failure, answer = .error failure ∧
            ∃ failing ∈ before ++ [value], index.LabelsFail failing failure := by
  intro outcome answer
  have hanswer : answer = outcome >>= fun results => (wording language results).run index :=
    run_answerIn index engine language question
  refine ⟨fun failure houtcome => ?_, fun results houtcome => ?_⟩
  · rw [hanswer, houtcome]
    rfl
  have hwording : answer = (wording language results).run index := by
    rw [hanswer, houtcome]
    rfl
  refine ⟨fun text => ?_, fun failure => ?_, fun text htext value hvalue => ?_,
    fun before value after hsplit hnone => ?_⟩
  · rw [hwording]
    exact run_wording_ok_iff
  · rw [hwording]
    exact run_wording_error_iff_exists
  · rw [hwording] at htext
    obtain ⟨shown, hshown⟩ :=
      Index.labelsOf_ok_iff.mpr ((run_wording_ok_iff.mp htext).1 value hvalue)
    exact Index.exists_label_or_lacksLanguage hshown
  · rw [hwording]
    by_cases hlacks : index.LacksLanguage language value
    · exact .inl hlacks
    · exact .inr (exists_failing_of_noLabel hsplit hnone hlacks)

/-- A film with a genre, the stored labels of the genre given. -/
def withGenre (labels : List String) : TripleSet :=
  .ofList (⟨"m.1", "label", "Jaws @en"⟩ :: ⟨"m.1", "film.film.genre", "m.2"⟩ ::
    labels.map fun label => ⟨"m.2", "label", label⟩)

theorem template_genre :
    Question.template "Which has genre Jaws" = .ok (.property "genre" "Jaws") := by
  decide +kernel

/-- A genre with labels in two languages is told by the one in the language of the answer. -/
theorem genre_told :
    let index := (withGenre ["Horror @en", "Orrore @it"]).index
    ∃ results, (queryIn {} .english "Which has genre Jaws").run index = .ok results ∧
      (answerIn {} .english "Which has genre Jaws").run index = .ok "m.1: Horror" ∧
      ∀ value ∈ results.values,
        (∃ label, index.HasLabel .english value label) ∨ index.LacksLanguage .english value := by
  intro index
  have hquery : (queryIn {} .english "Which has genre Jaws").run index =
      .ok (ResultMap.empty.insert ⟨.topic, "m.1", by decide⟩
        (.singleton ⟨.topic, "m.2", by decide⟩)).1 := by
    unfold queryIn
    rw [template_genre]
    rfl
  have hanswer : (answerIn {} .english "Which has genre Jaws").run index = .ok "m.1: Horror" := by
    decide +kernel
  obtain ⟨_, hresults⟩ := answerIn_labels index {} .english "Which has genre Jaws"
  obtain ⟨_, _, hlabelled, _⟩ := hresults _ hquery
  exact ⟨_, hquery, hanswer, hlabelled _ hanswer⟩

/-- **A value whose label is in another language is left out**, and its line is left with none. -/
theorem genre_left_out :
    let index := (withGenre ["Orrore @it"]).index
    ∃ results value, (queryIn {} .english "Which has genre Jaws").run index = .ok results ∧
      value ∈ results.values ∧ (∀ label, ¬index.HasLabel .english value label) ∧
      (answerIn {} .english "Which has genre Jaws").run index = .ok "m.1: " := by
  intro index
  refine ⟨(ResultMap.empty.insert ⟨.topic, "m.1", by decide⟩
      (.singleton ⟨.topic, "m.2", by decide⟩)).1,
    ⟨.topic, "m.2", by decide⟩, ?_, List.mem_singleton_self _, ?_, by decide +kernel⟩
  · unfold queryIn
    rw [template_genre]
    rfl
  · rintro label ⟨stored, hstored, raw, hraw, hlabel⟩
    have hshown : stored = .singleton "Orrore @it" := (Except.ok.inj hstored).symm
    rw [hshown] at hraw
    rw [List.mem_singleton.mp hraw] at hlabel
    cases hlabel

end Engine

end GraphAnswers
