import GraphAnswers.Proofs.FirstTopics
import GraphAnswers.Proofs.QuestionForms
import GraphAnswers.Proofs.ValueLabels
/-!
# The number of a term and its count

Whether the term of a quantity question agrees with its count is judged twice: by the last letter of
the term, when the question is read, and by the catalog, when the term is looked up.  The first
judgement knows nothing of the catalog, so a term in `y` or `s` may be refused although it is
registered; the second one guesses the plural of a term that is not.  Together they come to three
cases (`Engine.judged`), and only in the last of them is the index asked at all, so a failure tells
which of them it was (`Engine.number_agreement`).
-/
namespace GraphAnswers

open Text

/-! ### Reading a count -/

section Reading

variable {count : Nat} {term : String}

theorem toLower_of_isDigit {c : Char} (h : c.isDigit = true) : c.toLower = c := by
  have hbounds : 48 ≤ c.toNat ∧ c.toNat ≤ 57 := by
    simpa [Char.isDigit, UInt32.le_iff_toNat_le] using h
  unfold Char.toLower
  rw [dif_neg]
  rintro ⟨hfrom, _⟩
  rw [ge_iff_le, UInt32.le_iff_toNat_le] at hfrom
  have hfrom : 65 ≤ c.toNat := hfrom
  omega

/-- A count has no letters, so it is no keyword. -/
theorem sameLetters_toString (count : Nat) {keyword : String} {c : Char}
    (hc : c ∈ keyword.toList) (hletter : c.toLower.isDigit = false) :
    sameLetters (toString count) keyword = false := by
  unfold sameLetters
  rw [beq_eq_false_iff_ne]
  intro heq
  have hmem : c.toLower ∈ (toString count).toList.map Char.toLower :=
    heq ▸ List.mem_map_of_mem hc
  obtain ⟨d, hd, hlower⟩ := List.mem_map.mp hmem
  have hdigit := isDigit_of_mem_toString hd
  rw [toLower_of_isDigit hdigit] at hlower
  rw [← hlower, hdigit] at hletter
  cases hletter

namespace Question

/-- A term that can end a question is one of its words. -/
theorem isWord_of_plainEnd (hterm : Text.IsWord term) (hmark : endsIn term '?' = false) :
    IsWord term := by
  refine ⟨hterm.solid, ?_⟩
  have hlast : term.toList.getLast? = some (term.toList.getLast hterm.ne_nil) :=
    List.getLast?_eq_some_getLast hterm.ne_nil
  unfold endsIn at hmark
  rw [hlast, Option.some_beq_some, beq_eq_false_iff_ne] at hmark
  exact isMarks_eq_false (List.getLast_mem hterm.ne_nil) hmark

theorem classify_tellCount (hpos : 0 < count) (hcount : count ≤ maxCount) (term : String) :
    classify ["Tell", toString count, term] =
      checkNumber term count >>= fun _ => .ok (.quantity count term) := by
  have hplace : ofPlace? (["Tell", toString count] ++ [term]) = none :=
    ofPlace?_concat (by simpa using (toString_ne_of count).symm) term
  have hearly : (if ((["Tell", toString count, term][1]?).bind (numeral? maxCount)).isSome
      then 1 else 2) = 1 := by
    show (if (numeral? maxCount (toString count)).isSome = true then 1 else 2) = 1
    rw [numeral?_toString hcount]
    rfl
  have his : sameLetters (toString count) "is" = false :=
    sameLetters_toString count (c := 'i') (by decide) (by decide)
  have hhas : sameLetters (toString count) "has" = false :=
    sameLetters_toString count (c := 'h') (by decide) (by decide)
  rw [List.cons_append, List.cons_append, List.nil_append] at hplace
  rw [classify_cons_cons (by decide) (by decide) his, if_neg (by decide),
    if_neg (Bool.eq_false_iff.mp hhas),
    if_pos (by decide), classifyTell, hplace]
  exact classifyQuantity_count hpos hcount hearly rfl rfl

/-- The words of a sentence that ends in a count and a term. -/
theorem words_count {opening : List String} (hne : opening ≠ []) (hfixed : opening ⊆ fixedWords)
    (hterm : Text.IsWord term) (hmark : endsIn term '?' = false) :
    Question.words (unwords opening ++ " " ++ toString count ++ " " ++ term) =
      opening ++ [toString count, term] := by
  have hall : ∀ w ∈ opening ++ [toString count, term], IsWord w := by
    refine words_append (isWord_of_subset hfixed) fun w hw => ?_
    rcases List.mem_cons.mp hw with rfl | hw
    · exact isWord_toString count
    · exact List.mem_singleton.mp hw ▸ isWord_of_plainEnd hterm hmark
  have hends : EndsPlainly (opening ++ [toString count, term]) :=
    endsPlainly_append (by simpa [EndsPlainly] using hmark) (List.cons_ne_nil _ _)
  have hsentence : unwords opening ++ " " ++ toString count ++ " " ++ term =
      unwords (opening ++ [toString count, term]) := by
    rw [unwords_append hne (List.cons_ne_nil _ _), unwords_cons _ (List.cons_ne_nil _ _),
      unwords_singleton]
    simp only [String.append_assoc]
  rw [hsentence]
  exact (words_sentence (List.append_ne_nil_of_left_ne_nil hne _) hall hends).1

/-- **Either question for a count is read as one**, once the number of the term is found to agree. -/
theorem template_tell (hpos : 0 < count) (hcount : count ≤ maxCount) (hterm : Text.IsWord term)
    (hmark : endsIn term '?' = false) {question : String}
    (hquestion : question = "Tell " ++ toString count ++ " " ++ term ∨
      question = "Tell me " ++ toString count ++ " " ++ term) :
    template question = checkNumber term count >>= fun _ => .ok (.quantity count term) := by
  unfold template
  rcases hquestion with rfl | rfl
  · have hopening : unwords ["Tell"] ++ " " = "Tell " := by decide
    rw [← hopening, words_count (List.cons_ne_nil _ _) (by decide) hterm hmark]
    exact classify_tellCount hpos hcount term
  · have hopening : unwords ["Tell", "me"] ++ " " = "Tell me " := by decide
    rw [← hopening, words_count (List.cons_ne_nil _ _) (by decide) hterm hmark]
    exact classify_tellMeCount hpos hcount term

end Question

end Reading

/-! ### Two judgements -/

/-- **Whether a term does not agree with a count**: a term in `s` for one, and for several a term in
`y` or one that the catalog has with an `s` after it only. -/
def Catalog.Disagrees (catalog : Catalog) (term : String) (count : Nat) : Prop :=
  (count = 1 ∧ Question.endsIn term 's' = true) ∨
  (1 < count ∧ Question.endsIn term 'y' = true) ∨
  (1 < count ∧ catalog.contains term = false ∧ catalog.contains (term ++ "s") = true)

namespace Engine

/-- The type that a quantity question asks for, after both judgements. -/
def askedType (catalog : Catalog) (term : String) (count : Nat) : Except Failure String := do
  Question.checkNumber term count
  quantityType catalog term count

variable {catalog : Catalog} {term : String} {count : Nat}

theorem checkNumber_cases (term : String) (hpos : 1 ≤ count) :
    ((count = 1 ∧ Question.endsIn term 's' = true ∨ 1 < count ∧ Question.endsIn term 'y' = true) ∧
      ∃ detail, Question.checkNumber term count = .error (.grammarMismatch detail)) ∨
    ((count = 1 → Question.endsIn term 's' = false) ∧
      (1 < count → Question.endsIn term 'y' = false) ∧
      Question.checkNumber term count = .ok ()) := by
  unfold Question.checkNumber
  rcases Nat.lt_or_eq_of_le hpos with hseveral | rfl
  · have hone : count ≠ 1 := by omega
    cases hy : Question.endsIn term 'y' with
    | true =>
      refine .inl ⟨.inr ⟨hseveral, rfl⟩, "Type plural form!", ?_⟩
      rw [decide_eq_true hseveral]
      rfl
    | false => exact .inr ⟨fun h => absurd h hone, fun _ => rfl, by simp [hone]⟩
  · cases hs : Question.endsIn term 's' with
    | true => exact .inl ⟨.inl ⟨rfl, rfl⟩, "Type singular form!", rfl⟩
    | false => exact .inr ⟨fun _ => rfl, fun h => absurd h (by omega), by simp⟩

theorem quantityType_of_contains (h : catalog.contains term = true) :
    ∃ type, catalog.predicate term = .ok type ∧ quantityType catalog term count = .ok type := by
  unfold Catalog.contains SortedMap.contains at h
  obtain ⟨entry, hentry⟩ := Option.isSome_iff_exists.mp h
  have hpredicate : catalog.predicate term = .ok entry.predicate := by
    unfold Catalog.predicate Catalog.lookup
    rw [hentry]
    rfl
  exact ⟨entry.predicate, hpredicate, quantityType_of_predicate hpredicate count⟩

/-- **The two judgements together**: the number does not agree, or it does and the term is unknown,
or it does and the term stands for a type. -/
theorem judged (catalog : Catalog) (term : String) (hpos : 1 ≤ count) :
    (catalog.Disagrees term count ∧
      ∃ detail, askedType catalog term count = .error (.grammarMismatch detail)) ∨
    (¬catalog.Disagrees term count ∧ catalog.contains term = false ∧
      askedType catalog term count = .error (.unknownTerm term)) ∨
    (¬catalog.Disagrees term count ∧ catalog.contains term = true ∧
      ∃ type, catalog.predicate term = .ok type ∧ askedType catalog term count = .ok type) := by
  unfold askedType
  rcases checkNumber_cases term hpos with
    ⟨hletter, detail, hchecked⟩ | ⟨hone, hseveral, hchecked⟩
  · rw [hchecked]
    exact .inl ⟨hletter.imp_right .inl, detail, rfl⟩
  rw [hchecked]
  show (_ ∧ ∃ detail, quantityType catalog term count = _) ∨
    (_ ∧ _ ∧ quantityType catalog term count = _) ∨
    (_ ∧ _ ∧ ∃ type, _ ∧ quantityType catalog term count = _)
  cases hcontains : catalog.contains term with
  | true =>
    refine .inr (.inr ⟨?_, rfl, quantityType_of_contains hcontains⟩)
    rintro (⟨h, hs⟩ | ⟨h, hy⟩ | ⟨_, hnone, _⟩)
    · rw [hone h] at hs
      cases hs
    · rw [hseveral h] at hy
      cases hy
    · rw [hcontains] at hnone
      cases hnone
  | false =>
    unfold quantityType
    rw [hcontains, if_neg Bool.false_ne_true]
    by_cases hmany : 1 < count
    · rw [if_pos hmany]
      cases hplural : catalog.contains (term ++ "s") with
      | true => exact .inl ⟨.inr (.inr ⟨hmany, hcontains, hplural⟩), _, rfl⟩
      | false =>
        refine .inr (.inl ⟨?_, rfl, rfl⟩)
        rintro (⟨h, _⟩ | ⟨h, hy⟩ | ⟨_, _, hsome⟩)
        · omega
        · rw [hseveral h] at hy
          cases hy
        · rw [hplural] at hsome
          cases hsome
    · -- a term in `s` was refused before, so no singular is guessed
      have hs : Question.endsIn term 's' = false := hone (by omega)
      rw [if_neg hmany, hs, Bool.false_and, if_neg Bool.false_ne_true]
      refine .inr (.inl ⟨?_, rfl, rfl⟩)
      rintro (⟨_, hs'⟩ | ⟨h, _⟩ | ⟨h, _⟩)
      · rw [hs] at hs'
        cases hs'
      · exact hmany h
      · exact hmany h

end Engine

/-! ### What the index may add -/

namespace Index

variable {index : Index} {failure : Failure}

/-- Whether a look-up of values can fail in this way. -/
def FailsWith (index : Index) (failure : Failure) : Prop :=
  ∃ lookup, index.property lookup = .error failure

/-- Whether the index leaves it to the engine to judge a term: no look-up of values fails for a
number that does not agree, or for an unknown term. -/
structure JudgesNoTerm (index : Index) : Prop where
  agreement : ∀ detail, ¬index.FailsWith (.grammarMismatch detail)
  known : ∀ term, ¬index.FailsWith (.unknownTerm term)

/-- Whether a look-up of values fails in one way only: that nothing matches. -/
def OnlyLacks (index : Index) : Prop := ∀ failure, index.FailsWith failure → failure = .notFound

theorem OnlyLacks.judgesNoTerm (h : index.OnlyLacks) : index.JudgesNoTerm :=
  ⟨fun _ hfails => (by cases h _ hfails), fun _ hfails => (by cases h _ hfails)⟩

theorem onlyLacks_triples (triples : TripleSet) : triples.index.OnlyLacks := by
  have hnone {found : SortedSet String} {failure : Failure}
      (h : nonEmpty found = .error failure) : failure = .notFound := by
    unfold nonEmpty at h
    split at h
    · exact (Except.error.inj h).symm
    · cases h
  rintro failure ⟨⟨field, anchor, role⟩, h⟩
  cases role with
  | subject => exact hnone h
  | object => exact hnone h

theorem onlyLacks_database {d : Database} (hrows : d.needRows = .ok ()) : d.index.OnlyLacks := by
  rw [Database.index_eq_of_needRows hrows]
  exact onlyLacks_triples d.store.triples

theorem failure_of_needRows {d : Database} (h : d.needRows = .error failure) :
    failure = .database := by
  unfold Database.needRows at h
  split at h
  · cases h
  · exact (Except.error.inj h).symm

/-- **An index file never judges a term**, even one that cannot be read. -/
theorem judgesNoTerm_database (d : Database) : d.index.JudgesNoTerm := by
  by_cases hrows : d.needRows = .ok ()
  · exact (onlyLacks_database hrows).judgesNoTerm
  · have hrefused {failure : Failure} (h : d.index.FailsWith failure) : failure = .database := by
      obtain ⟨lookup, h⟩ := h
      rcases bind_error_iff.mp h with h | ⟨_, h, _⟩
      · exact failure_of_needRows h
      · exact absurd h hrows
    exact ⟨fun _ h => (by cases hrefused h), fun _ h => (by cases hrefused h)⟩

/-- What is asked for a type fails because a look-up does, or because of an identifier. -/
theorem of_firstTopics_error {type : String} {count : Nat}
    (h : index.firstTopics type count = .error failure) :
    index.FailsWith failure ∨ ∃ detail, failure = .invalidIdentifier detail := by
  rcases bind_error_iff.mp h with h | ⟨key, _, h⟩
  · unfold Element.ofId at h
    split at h
    · cases h
    · exact .inr ⟨_, (Except.error.inj h).symm⟩
  rcases bind_error_iff.mp h with h | ⟨topics, _, h⟩
  · rw [Inquiry.run_elements] at h
    rcases bind_error_iff.mp h with h | ⟨ids, _, h⟩
    · exact .inl ⟨_, h⟩
    · exact .inr (Element.of_ofIds_error h)
  · cases h

/-- Results fail to be put into words because a look-up fails, or because a label has no tag. -/
theorem of_wording_error {language : Language} {results : ResultMap}
    (h : (Engine.wording language results).run index = .error failure) :
    index.FailsWith failure ∨ ∃ label, failure = .untaggedLabel label := by
  obtain ⟨_, value, _, _, _, hfails⟩ := Engine.run_wording_error_iff_exists.mp h
  cases hfails with
  | lookup _ hlookup => exact .inl ⟨_, hlookup⟩
  | untagged => exact .inr ⟨_, rfl⟩

/-- Where the index judges no term, a failure that it or the data it holds accounts for is none of
the engine's judgements. -/
theorem JudgesNoTerm.ne_judgement (hjudges : index.JudgesNoTerm)
    (h : index.FailsWith failure ∨ (∃ detail, failure = .invalidIdentifier detail) ∨
      ∃ label, failure = .untaggedLabel label) :
    (∀ detail, failure ≠ .grammarMismatch detail) ∧ ∀ term, failure ≠ .unknownTerm term := by
  rcases h with h | ⟨_, rfl⟩ | ⟨_, rfl⟩
  · constructor
    · rintro detail rfl
      exact hjudges.agreement detail h
    · rintro term rfl
      exact hjudges.known term h
  · exact ⟨fun _ => Failure.noConfusion, fun _ => Failure.noConfusion⟩
  · exact ⟨fun _ => Failure.noConfusion, fun _ => Failure.noConfusion⟩

/-- An index of which every look-up fails in one way. -/
def failing (failure : Failure) : Index :=
  ⟨fun _ => .error failure, fun _ _ => .error failure⟩

end Index

namespace Engine

section Counted

variable {index : Index} {engine : Engine} {language : Language} {count : Nat}
  {term question type : String} {failure : Failure}

/-- A question for a count comes to what the index gives for the type that is asked for. -/
theorem run_queryIn_count (hpos : 1 ≤ count) (hcount : count ≤ maxCount)
    (hterm : Text.IsWord term) (hmark : Question.endsIn term '?' = false)
    (hquestion : question = "Tell " ++ toString count ++ " " ++ term ∨
      question = "Tell me " ++ toString count ++ " " ++ term) :
    (engine.queryIn language question).run index =
      askedType engine.catalog term count >>= fun type => index.firstTopics type count := by
  unfold queryIn askedType
  rw [Inquiry.run_bind, Question.template_tell hpos hcount hterm hmark hquestion]
  cases Question.checkNumber term count with
  | error failure => rfl
  | ok _ => exact run_quantity index engine count term

theorem answerIn_of_queryIn_error (h : (engine.queryIn language question).run index = .error failure) :
    (engine.answerIn language question).run index = .error failure := by
  rw [run_answerIn, h]
  rfl

/-- **Where the failure of a question for a type comes from**: from the subjects of the type, or from
the labels of those that were found. -/
theorem source_of_failure
    (hquery : (engine.queryIn language question).run index = index.firstTopics type count)
    (h : (engine.answerIn language question).run index = .error failure) :
    ((engine.queryIn language question).run index = .error failure ∧
      (index.FailsWith failure ∨ ∃ detail, failure = .invalidIdentifier detail)) ∨
    ∃ results, (engine.queryIn language question).run index = .ok results ∧
      (wording language results).run index = .error failure ∧
      (index.FailsWith failure ∨ ∃ label, failure = .untaggedLabel label) := by
  rw [run_answerIn] at h
  rcases bind_error_iff.mp h with h | ⟨results, hresults, h⟩
  · exact .inl ⟨h, Index.of_firstTopics_error (hquery ▸ h)⟩
  · exact .inr ⟨results, hresults, h, Index.of_wording_error h⟩

theorem kind_of_failure
    (hquery : (engine.queryIn language question).run index = index.firstTopics type count)
    (h : (engine.answerIn language question).run index = .error failure) :
    index.FailsWith failure ∨ (∃ detail, failure = .invalidIdentifier detail) ∨
      ∃ label, failure = .untaggedLabel label := by
  rcases source_of_failure hquery h with ⟨_, h | h⟩ | ⟨_, _, _, h | h⟩
  · exact .inl h
  · exact .inr (.inl h)
  · exact .inl h
  · exact .inr (.inr h)

end Counted

/-- **The two judgements of number are one.**  A question for a count fails for its grammar if the
term does not agree with the count, as the letters at its end and the catalog together tell, and for
an unknown term, which is the term of the question, if it agrees and the catalog does not have it.
Otherwise the catalog has a type for it, and the question comes to what the index gives for that
type: if it fails, then because a look-up fails, for an identifier that is not admitted, or for a
label of what was found that has no tag.  So the failure tells which of the three it was, unless the
index itself fails as the engine does; and an index whose look-ups fail only where there is nothing
adds no failure but that there is nothing. -/
theorem number_agreement (index : Index) (engine : Engine) (language : Language) {count : Nat}
    {term question : String} (hpos : 1 ≤ count) (hcount : count ≤ maxCount)
    (hterm : Text.IsWord term) (hmark : Question.endsIn term '?' = false)
    (hquestion : question = "Tell " ++ toString count ++ " " ++ term ∨
      question = "Tell me " ++ toString count ++ " " ++ term) :
    let query := (engine.queryIn language question).run index
    let answer := (engine.answerIn language question).run index
    (engine.catalog.Disagrees term count → ∃ detail, answer = .error (.grammarMismatch detail)) ∧
    (¬engine.catalog.Disagrees term count → engine.catalog.contains term = false →
      answer = .error (.unknownTerm term)) ∧
    (¬engine.catalog.Disagrees term count → engine.catalog.contains term = true →
      (∃ type, engine.catalog.predicate term = .ok type ∧
        query = index.firstTopics type count) ∧
      ∀ failure, answer = .error failure →
        ((query = .error failure ∧
            (index.FailsWith failure ∨ ∃ detail, failure = .invalidIdentifier detail)) ∨
          ∃ results, query = .ok results ∧ (wording language results).run index = .error failure ∧
            (index.FailsWith failure ∨ ∃ label, failure = .untaggedLabel label)) ∧
        (index.OnlyLacks → failure = .notFound ∨
          (∃ detail, failure = .invalidIdentifier detail) ∨
          ∃ label, failure = .untaggedLabel label)) ∧
    (index.JudgesNoTerm →
      ((∃ detail, answer = .error (.grammarMismatch detail)) ↔
        engine.catalog.Disagrees term count) ∧
      ∀ unknown, answer = .error (.unknownTerm unknown) ↔
        unknown = term ∧ ¬engine.catalog.Disagrees term count ∧
          engine.catalog.contains term = false) := by
  intro query answer
  have hquery : query = askedType engine.catalog term count >>= fun type =>
      index.firstTopics type count := run_queryIn_count hpos hcount hterm hmark hquestion
  rcases judged engine.catalog term hpos with
    ⟨hgate, detail, hasked⟩ | ⟨hgate, hcontains, hasked⟩ |
      ⟨hgate, hcontains, type, htype, hasked⟩
  · have houtcome : answer = .error (.grammarMismatch detail) :=
      answerIn_of_queryIn_error (hquery.trans (by rw [hasked]; rfl))
    rw [houtcome]
    refine ⟨fun _ => ⟨detail, rfl⟩, fun h => absurd hgate h, fun h => absurd hgate h, fun _ =>
      ⟨iff_of_true ⟨detail, rfl⟩ hgate, fun unknown => ?_⟩⟩
    exact iff_of_false (fun h => by cases h) fun h => h.2.1 hgate
  · have houtcome : answer = .error (.unknownTerm term) :=
      answerIn_of_queryIn_error (hquery.trans (by rw [hasked]; rfl))
    rw [houtcome]
    refine ⟨fun h => absurd h hgate, fun _ _ => rfl, fun _ h => ?_, fun _ =>
      ⟨iff_of_false ?_ hgate, fun unknown => ?_⟩⟩
    · rw [hcontains] at h
      cases h
    · rintro ⟨detail, h⟩
      cases h
    · rw [Except.error.injEq, Failure.unknownTerm.injEq, eq_comm]
      exact (and_iff_left ⟨hgate, hcontains⟩).symm
  · have htold : query = index.firstTopics type count := hquery.trans (by rw [hasked]; rfl)
    have hknown : engine.catalog.contains term ≠ false := by rw [hcontains]; decide
    refine ⟨fun h => absurd h hgate, fun _ h => absurd h hknown, fun _ _ =>
      ⟨⟨type, htype, htold⟩, fun failure h => ⟨source_of_failure htold h, fun honly => ?_⟩⟩,
      fun hjudges => ⟨iff_of_false ?_ hgate, fun unknown => iff_of_false (fun h => ?_) fun h => ?_⟩⟩
    · exact (kind_of_failure htold h).imp_left (honly failure)
    · rintro ⟨detail, h⟩
      exact (hjudges.ne_judgement (kind_of_failure htold h)).1 detail rfl
    · exact (hjudges.ne_judgement (kind_of_failure htold h)).2 unknown rfl
    · exact hknown h.2.2

/-- The singular of a term that is registered in the plural, asked for twice over: refused for two,
unknown for one.  The plural is looked up, and the new index has nothing for it. -/
theorem number_agreement_actor :
    (Migration.fresh.index.JudgesNoTerm ∧ Migration.fresh.index.OnlyLacks ∧
      Text.IsWord "actor" ∧ Text.IsWord "actors") ∧
      (∃ detail, (answerIn {} .english "Tell me 2 actor").run Migration.fresh.index =
        .error (.grammarMismatch detail)) ∧
      (answerIn {} .english "Tell 1 actor").run Migration.fresh.index =
        .error (.unknownTerm "actor") ∧
      (∃ type, (queryIn {} .english "Tell 2 actors").run Migration.fresh.index =
        Migration.fresh.index.firstTopics type 2) ∧
      ∃ failure, (answerIn {} .english "Tell 2 actors").run Migration.fresh.index =
        .error failure ∧ (failure = .notFound ∨ (∃ detail, failure = .invalidIdentifier detail) ∨
          ∃ label, failure = .untaggedLabel label) := by
  have hindex : Migration.fresh.index.OnlyLacks :=
    Index.onlyLacks_database Migration.fresh_hasTables.rows
  have hjudges : Migration.fresh.index.JudgesNoTerm := Index.judgesNoTerm_database _
  have hlacks : ({} : Engine).catalog.contains "actor" = false := by decide
  have hplural : ({} : Engine).catalog.contains ("actor" ++ "s") = true := by decide
  have hword : Text.IsWord "actor" := by decide
  have hwords : Text.IsWord "actors" := by decide
  refine ⟨⟨hjudges, hindex, hword, hwords⟩, ?_, ?_, ?_⟩
  · exact ((number_agreement _ {} .english (by decide : 1 ≤ 2) (by decide) hword
      (by decide) (.inr (by decide))).2.2.2 hjudges).1.mpr (.inr (.inr ⟨by decide, hlacks, hplural⟩))
  · refine (((number_agreement _ {} .english (by decide : 1 ≤ 1) (by decide) hword
      (by decide) (.inl (by decide))).2.2.2 hjudges).2 "actor").mpr ⟨rfl, ?_, hlacks⟩
    rintro (⟨_, h⟩ | ⟨h, _⟩ | ⟨h, _⟩)
    · exact absurd h (by decide)
    · omega
    · omega
  · have hagrees : ¬({} : Engine).catalog.Disagrees "actors" 2 := by
      rintro (⟨h, _⟩ | ⟨_, h⟩ | ⟨_, h, _⟩)
      · omega
      · exact absurd h (by decide)
      · exact absurd (hplural.symm.trans h) (by decide)
    have hquestion : "Tell 2 actors" = "Tell " ++ toString 2 ++ " " ++ "actors" ∨
        "Tell 2 actors" = "Tell me " ++ toString 2 ++ " " ++ "actors" := .inl (by decide)
    obtain ⟨⟨type, _, hquery⟩, hfails⟩ := (number_agreement Migration.fresh.index {} .english
      (by decide) (by decide) hwords (by decide) hquestion).2.2.1 hagrees hplural
    have hnone : (answerIn {} .english "Tell 2 actors").run Migration.fresh.index =
        .error .notFound := by decide
    exact ⟨⟨type, hquery⟩, .notFound, hnone, (hfails .notFound hnone).2 hindex⟩

/-- A term that agrees with its count and is registered, asked for where look-ups fail otherwise
than for want of a match: in a file without tables the failure is that of the file, and an index
that itself fails for a number that does not agree is not told from the engine. -/
theorem fails_with_index :
    ¬({} : Engine).catalog.Disagrees "movies" 2 ∧
      ({} : Engine).catalog.contains "movies" = true ∧
      (answerIn {} .english "Tell 2 movies").run Database.empty.index = .error .database ∧
      (answerIn {} .english "Tell 2 movies").run (.failing (.grammarMismatch "")) =
        .error (.grammarMismatch "") := by
  have hcontains : ({} : Engine).catalog.contains "movies" = true := by decide
  refine ⟨?_, hcontains, by decide, by decide⟩
  rintro (⟨h, _⟩ | ⟨_, h⟩ | ⟨_, h, _⟩)
  · omega
  · exact absurd h (by decide)
  · exact absurd (hcontains.symm.trans h) (by decide)

end Engine

end GraphAnswers
