import GraphAnswers.Proofs.Outcomes
import GraphAnswers.Proofs.Wording
import GraphAnswers.Question.Form
/-!
# Questions come back from their sentences

A template that is put into words is read back, whatever words its anchor and its term are made of:
the forms are told apart by words at places that the sentence itself fills.  Conversely, whatever is
read, the anchor and the term are runs of the words of the question.  And no form looks for a word
at a place where there is none (`Question.forms_decoded`).
-/
namespace GraphAnswers

namespace Question

open Text

/-! ### What can be asked -/

/-- Whether a text is a word of a question: no blank is in it, and it does not consist of question
marks only. -/
structure IsWord (w : String) : Prop where
  solid : ∀ c ∈ w.toList, isBlank c = false
  notMarks : isMarks w = false

instance (w : String) : Decidable (IsWord w) :=
  decidable_of_iff ((w.toList.all fun c => !isBlank c) = true ∧ isMarks w = false)
    ⟨fun h => ⟨by simpa using h.1, h.2⟩, fun h => ⟨by simpa using h.solid, h.notMarks⟩⟩

/-- Whether the last word, if there is one, does not end in a question mark. -/
def EndsPlainly (ws : List String) : Prop := ∀ w ∈ ws.getLast?, endsIn w '?' = false

/-- Whether a text consists of words of a question joined by single spaces. -/
structure IsPhrase (phrase : String) (ws : List String) : Prop where
  ne_nil : ws ≠ []
  words : ∀ w ∈ ws, IsWord w
  joined : phrase = unwords ws

/-- Whether a text can be what a question ends with. -/
def IsName (phrase : String) : Prop := ∃ ws, IsPhrase phrase ws ∧ EndsPlainly ws

end Question

open Question in
/-- **What can be asked in words**: anchors and terms of the right words.  No sentence asks for
anchors of any kind. -/
def Template.IsAskable : Template → Prop
  | typeOf anchor filter => filter ≠ .any ∧ IsName anchor
  | birthplace anchor => IsName anchor
  | property term anchor => IsWord term ∧ IsName anchor
  | starring term anchor => (∃ ws, IsPhrase term ws ∧ "of" ∉ ws) ∧ IsName anchor
  | quantity count term =>
    0 < count ∧ count ≤ Text.maxCount ∧ checkNumber term count = .ok () ∧ IsWord term ∧
      endsIn term '?' = false

/-- **Where the parts of a template are taken from**: the anchor is a run of words, and the term a
run before it; that of a starring question may be empty, and elsewhere it is one word. -/
def Template.IsTakenFrom (tokens : List String) : Template → Prop
  | typeOf anchor _ | birthplace anchor =>
    ∃ before run after, tokens = before ++ run ++ after ∧ run ≠ [] ∧ anchor = Text.unwords run
  | property term anchor =>
    ∃ before between run after, tokens = before ++ [term] ++ between ++ run ++ after ∧
      run ≠ [] ∧ anchor = Text.unwords run
  | starring term anchor =>
    ∃ before termRun between run after, tokens = before ++ termRun ++ between ++ run ++ after ∧
      run ≠ [] ∧ anchor = Text.unwords run ∧ term = Text.unwords termRun
  | quantity count term =>
    ∃ before numeral after, tokens = before ++ numeral :: term :: after ∧
      Text.numeral? Text.maxCount numeral = some count ∧ 0 < count

namespace Question

open Text

/-! ### Cutting a question -/

variable {tokens ws : List String} {t : Template}

theorem IsWord.isWord {w : String} (h : IsWord w) : Text.IsWord w := by
  refine ⟨fun hnil => ?_, h.solid⟩
  have := h.notMarks
  unfold isMarks at this
  rw [hnil] at this
  cases this

/-- A word whose last letter is no question mark does not consist of question marks. -/
theorem isMarks_eq_false {w : String} {c : Char} (hc : c ∈ w.toList) (h : c ≠ '?') :
    isMarks w = false := by
  unfold isMarks
  rw [List.all_eq_false]
  exact ⟨c, hc, by simpa using h⟩

theorem stripMarks_eq_self (h : EndsPlainly ws) : stripMarks ws = ws := by
  induction ws with
  | nil => rfl
  | cons w ws ih =>
    cases ws with
    | nil =>
      have hlast : endsIn w '?' = false := h w (by simp)
      have hdrop : dropEndWhile (· == '?') w.toList = w.toList := by
        unfold endsIn at hlast
        unfold dropEndWhile
        cases hw : w.toList.reverse with
        | nil => rw [List.reverse_eq_nil_iff.mp hw]; rfl
        | cons c cs =>
          rw [← List.head?_reverse, hw] at hlast
          have hc : ¬(fun d => d == '?') c = true := by simpa using hlast
          rw [List.dropWhile_cons_of_neg (p := fun d => d == '?') hc, ← hw, List.reverse_reverse]
      rw [stripMarks, hdrop, String.ofList_toList]
    | cons w' ws =>
      have hrest : EndsPlainly (w' :: ws) := by
        intro v hv
        exact h v (by rw [List.getLast?_cons_cons]; exact hv)
      rw [stripMarks, ih hrest]
      simp

/-- **The words of a sentence are found again**, with or without a question mark after it. -/
theorem words_sentence (hne : ws ≠ []) (hwords : ∀ w ∈ ws, IsWord w) (hend : EndsPlainly ws) :
    Question.words (unwords ws) = ws ∧ Question.words (unwords ws ++ " ?") = ws := by
  have hkept : ws.filter (fun w => !isMarks w) = ws :=
    List.filter_eq_self.mpr fun w hw => by rw [(hwords w hw).notMarks]; rfl
  have hsolid (w : String) (hw : w ∈ ws) : Text.IsWord w := (hwords w hw).isWord
  have hmark : Text.IsWord "?" := by decide
  constructor
  · unfold Question.words
    rw [words_unwords hsolid, hkept, stripMarks_eq_self hend]
  · have hjoin : unwords ws ++ " ?" = unwords (ws ++ ["?"]) := by
      rw [unwords_append hne (List.cons_ne_nil _ _), unwords_singleton, String.append_assoc]
      rfl
    have hall : ∀ w ∈ ws ++ ["?"], Text.IsWord w := by
      intro w hw
      rcases List.mem_append.mp hw with hw | hw
      · exact hsolid w hw
      · exact List.mem_singleton.mp hw ▸ hmark
    have hdropped : ["?"].filter (fun w => !isMarks w) = [] := by decide
    unfold Question.words
    rw [hjoin, words_unwords hall, List.filter_append, hkept, hdropped, List.append_nil,
      stripMarks_eq_self hend]

/-! ### Reading the forms -/

@[simp] theorem hasWord_zero (w : String) (ws : List String) (keyword : String) :
    hasWord (w :: ws) 0 keyword = sameLetters w keyword := rfl

@[simp] theorem hasWord_succ (w : String) (ws : List String) (i : Nat) (keyword : String) :
    hasWord (w :: ws) (i + 1) keyword = hasWord ws i keyword := rfl

theorem require_eq_ok {minimum : Nat} (h : minimum ≤ tokens.length) :
    require tokens minimum = .ok () := if_neg (Nat.not_lt.mpr h)

theorem require_ok_iff {minimum : Nat} {u : Unit} :
    require tokens minimum = .ok u ↔ minimum ≤ tokens.length := by
  unfold require
  split <;> simp <;> omega

theorem classify_whoIs (h : ws ≠ []) :
    classify ("Who" :: "is" :: ws) = .ok (.typeOf (unwords ws) .persons) := by
  have hlength := List.length_pos_of_ne_nil h
  have his : hasWord ("Who" :: "is" :: ws) 1 "is" = true := by
    show sameLetters "is" "is" = true
    decide
  have hwho : hasWord ("Who" :: "is" :: ws) 0 "who" = true := by
    show sameLetters "Who" "who" = true
    decide
  unfold classify
  rw [if_neg (by simp), if_pos (by simp [his]), require_eq_ok (by simp; omega), if_pos hwho]
  rfl

theorem classify_whatIs (h : ws ≠ []) :
    classify ("What" :: "is" :: ws) = .ok (.typeOf (unwords ws) .nonPersons) := by
  have hlength := List.length_pos_of_ne_nil h
  have his : hasWord ("What" :: "is" :: ws) 1 "is" = true := by
    show sameLetters "is" "is" = true
    decide
  have hwho : ¬hasWord ("What" :: "is" :: ws) 0 "who" = true := by
    show ¬sameLetters "What" "who" = true
    decide
  unfold classify
  rw [if_neg (by simp), if_pos (by simp [his]), require_eq_ok (by simp; omega), if_neg hwho]
  rfl

/-- A question that opens with none of the words of the first form is not of that form. -/
theorem classify_cons_cons {first second : String} (hwhat : sameLetters first "what" = false)
    (his : sameLetters first "is" = false) (hsecond : sameLetters second "is" = false) :
    classify (first :: second :: ws) =
      if sameLetters first "where" then do
        require (first :: second :: ws) 4
        pure (.birthplace (between (first :: second :: ws) 2 (ws.length + 1)))
      else if sameLetters second "has" then do
        require (first :: second :: ws) 4
        pure (.property (ws.getD 0 "") (unwords (ws.drop 1)))
      else if sameLetters first "tell" then classifyTell (first :: second :: ws)
      else .error .unrecognizedForm := by
  unfold classify
  rw [if_neg (by simp), if_neg (by simp [hwhat, his, hsecond])]
  rfl

theorem classify_whereWas (h : ws ≠ []) :
    classify ("Where" :: "was" :: (ws ++ ["born"])) = .ok (.birthplace (unwords ws)) := by
  have hlength := List.length_pos_of_ne_nil h
  have hbetween : between ("Where" :: "was" :: (ws ++ ["born"])) 2
      ((ws ++ ["born"]).length + 1) = unwords ws := by
    unfold between
    simp
  rw [classify_cons_cons (by decide) (by decide) (by decide), if_pos (by decide),
    require_eq_ok (by simp; omega), hbetween]
  rfl

theorem classify_whoHas (term : String) (h : ws ≠ []) :
    classify ("Who" :: "has" :: term :: ws) = .ok (.property term (unwords ws)) := by
  have hlength := List.length_pos_of_ne_nil h
  rw [classify_cons_cons (by decide) (by decide) (by decide), if_neg (by decide),
    if_pos (by decide), require_eq_ok (by simp; omega)]
  rfl

theorem classify_tellMe : classify ("Tell" :: "me" :: ws) = classifyTell ("Tell" :: "me" :: ws) := by
  rw [classify_cons_cons (by decide) (by decide) (by decide), if_neg (by decide),
    if_neg (by decide), if_pos (by decide)]

/-- The first `of` is the one that the words before it do not contain. -/
theorem ofPlace?_append {before : List String} (hnone : "of" ∉ before) (h : ws ≠ []) :
    ofPlace? (before ++ "of" :: ws) = some before.length := by
  have hlength := List.length_pos_of_ne_nil h
  have hfind : (before ++ "of" :: ws).findIdx? (· == "of") = some before.length := by
    rw [List.findIdx?_append, List.findIdx?_eq_none_iff.mpr fun w hw => ?_]
    · simp [List.findIdx?_cons]
    · rw [beq_eq_false_iff_ne]
      rintro rfl
      exact hnone hw
  unfold ofPlace?
  rw [hfind]
  simp
  omega

theorem classify_tellMeThe {term : List String} (hterm : term ≠ []) (hnone : "of" ∉ term)
    (h : ws ≠ []) : classify ("Tell" :: "me" :: "the" :: (term ++ "of" :: ws)) =
      .ok (.starring (unwords term) (unwords ws)) := by
  have hlength := List.length_pos_of_ne_nil h
  have htermLength := List.length_pos_of_ne_nil hterm
  have hplace : ofPlace? ("Tell" :: "me" :: "the" :: (term ++ "of" :: ws)) =
      some (term.length + 3) := by
    have hbefore : "of" ∉ "Tell" :: "me" :: "the" :: term := by simp [hnone]
    exact ofPlace?_append hbefore h
  have hthe : hasWord ("Tell" :: "me" :: "the" :: (term ++ "of" :: ws)) 2 "the" = true := by
    show sameLetters "the" "the" = true
    decide
  rw [classify_tellMe, classifyTell, hplace]
  dsimp only
  rw [if_pos hthe, require_eq_ok (by simp; omega)]
  simp [between]

/-- A word `of` at the very end is followed by no anchor. -/
theorem ofPlace?_concat {before : List String} (hnone : "of" ∉ before) (last : String) :
    ofPlace? (before ++ [last]) = none := by
  have hbefore : before.findIdx? (· == "of") = none := by
    rw [List.findIdx?_eq_none_iff]
    intro w hw
    rw [beq_eq_false_iff_ne]
    rintro rfl
    exact hnone hw
  unfold ofPlace?
  rw [List.findIdx?_append, hbefore, List.findIdx?_singleton]
  by_cases hlast : (last == "of") = true
  · simp [hlast]
  · simp [hlast]

/-- A count at its place is read, and the number of the term after it is judged. -/
theorem classifyQuantity_count {place count : Nat} {term : String} (hpos : 0 < count)
    (hcount : count ≤ maxCount)
    (hplace : (if ((tokens[1]?).bind (numeral? maxCount)).isSome then 1 else 2) = place)
    (hword : tokens[place]? = some (toString count)) (hterm : tokens[place + 1]? = some term) :
    classifyQuantity tokens = checkNumber term count >>= fun _ => .ok (.quantity count term) := by
  have hlength : place + 2 ≤ tokens.length := by
    have := (List.getElem?_eq_some_iff.mp hterm).1
    omega
  have hfound : (numeral? maxCount (tokens.getD place "")).filter (0 < ·) = some count := by
    rw [List.getD_eq_getElem?_getD, hword, Option.getD_some, numeral?_toString hcount,
      Option.filter_some, if_pos (by simpa using hpos)]
  have hjudged : tokens.getD (place + 1) "" = term := by
    rw [List.getD_eq_getElem?_getD, hterm, Option.getD_some]
  unfold classifyQuantity
  dsimp only
  rw [hplace, require_eq_ok hlength, hfound, hjudged]
  rfl

theorem toString_ne_of (count : Nat) : toString count ≠ "of" := by
  intro heq
  have hdigit : 'o'.isDigit = true :=
    isDigit_of_mem_toString (n := count) (by rw [heq]; decide)
  exact absurd hdigit (by decide)

theorem classify_tellMeCount {count : Nat} (hpos : 0 < count) (hcount : count ≤ maxCount)
    (term : String) : classify ["Tell", "me", toString count, term] =
      checkNumber term count >>= fun _ => .ok (.quantity count term) := by
  have hplace : ofPlace? (["Tell", "me", toString count] ++ [term]) = none :=
    ofPlace?_concat (by simpa using (toString_ne_of count).symm) term
  have hlate : (if ((["Tell", "me", toString count, term][1]?).bind (numeral? maxCount)).isSome
      then 1 else 2) = 2 := by
    show (if (numeral? maxCount "me").isSome = true then 1 else 2) = 2
    decide
  rw [classify_tellMe, classifyTell]
  rw [List.cons_append, List.cons_append, List.cons_append, List.nil_append] at hplace
  rw [hplace]
  exact classifyQuantity_count hpos hcount hlate rfl rfl

/-! ### Putting into words and reading back -/

/-- The words that sentences are made of besides those of their templates. -/
def fixedWords : List String :=
  ["Who", "What", "is", "Where", "was", "born", "has", "Tell", "me", "the", "of"]

theorem isWord_of_subset {vs : List String} (h : vs ⊆ fixedWords) : ∀ w ∈ vs, IsWord w := by
  have hall : ∀ w ∈ fixedWords, IsWord w := by decide
  exact fun w hw => hall w (h hw)

theorem isBlank_of_isDigit {c : Char} (h : c.isDigit = true) : isBlank c = false := by
  have hbounds : 48 ≤ c.toNat ∧ c.toNat ≤ 57 := by
    simpa [Char.isDigit, UInt32.le_iff_toNat_le] using h
  unfold isBlank
  simp
  omega

theorem isWord_toString (count : Nat) : IsWord (toString count) := by
  have hdigits (c : Char) (hc : c ∈ (toString count).toList) := isDigit_of_mem_toString hc
  refine ⟨fun c hc => isBlank_of_isDigit (hdigits c hc), ?_⟩
  obtain ⟨c, hc⟩ := List.exists_mem_of_ne_nil _ (toString_toList_ne_nil count)
  refine isMarks_eq_false hc ?_
  rintro rfl
  exact absurd (hdigits _ hc) (by decide)

/-- **What the sentence of a template is made of**: words that are read as the template. -/
structure Spells (tokens : List String) (t : Template) : Prop where
  ne_nil : tokens ≠ []
  words : ∀ w ∈ tokens, IsWord w
  endsPlainly : EndsPlainly tokens
  sentence : t.sentence = unwords tokens
  classify : classify tokens = .ok t

theorem endsPlainly_append {vs : List String} (h : EndsPlainly ws) (hne : ws ≠ []) :
    EndsPlainly (vs ++ ws) := by
  intro w hw
  rw [List.getLast?_append_of_ne_nil _ hne] at hw
  exact h w hw

theorem words_append {vs : List String} (hv : ∀ w ∈ vs, IsWord w) (hw : ∀ w ∈ ws, IsWord w) :
    ∀ w ∈ vs ++ ws, IsWord w := List.forall_mem_append.mpr ⟨hv, hw⟩

theorem exists_spells (h : t.IsAskable) : ∃ tokens, Spells tokens t := by
  cases t with
  | typeOf anchor filter =>
    obtain ⟨hfilter, ws, ⟨hne, hwords, rfl⟩, hend⟩ := h
    cases filter with
    | any => exact absurd rfl hfilter
    | persons =>
      refine ⟨["Who", "is"] ++ ws, by simp, words_append (isWord_of_subset (by decide)) hwords,
        endsPlainly_append hend hne, ?_, classify_whoIs hne⟩
      rw [unwords_append (List.cons_ne_nil _ _) hne]
      rfl
    | nonPersons =>
      refine ⟨["What", "is"] ++ ws, by simp, words_append (isWord_of_subset (by decide)) hwords,
        endsPlainly_append hend hne, ?_, classify_whatIs hne⟩
      rw [unwords_append (List.cons_ne_nil _ _) hne]
      rfl
  | birthplace anchor =>
    obtain ⟨ws, ⟨hne, hwords, rfl⟩, hend⟩ := h
    have hborn : EndsPlainly ["born"] := by
      unfold EndsPlainly
      decide
    refine ⟨["Where", "was"] ++ (ws ++ ["born"]), by simp,
      words_append (isWord_of_subset (by decide))
        (words_append hwords (isWord_of_subset (by decide))),
      endsPlainly_append (endsPlainly_append hborn (by simp)) (by simp), ?_, classify_whereWas hne⟩
    have hopening : unwords ["Where", "was"] = "Where was" := rfl
    rw [unwords_append (List.cons_ne_nil _ _) (by simp), unwords_append hne (by simp), hopening,
      ← String.toList_inj]
    simp [Template.sentence, unwords_singleton]
  | property term anchor =>
    obtain ⟨hterm, ws, ⟨hne, hwords, rfl⟩, hend⟩ := h
    refine ⟨["Who", "has"] ++ ([term] ++ ws), by simp,
      words_append (isWord_of_subset (by decide)) (words_append (by simpa using hterm) hwords),
      endsPlainly_append (endsPlainly_append hend hne) (by simp), ?_, classify_whoHas term hne⟩
    have hopening : unwords ["Who", "has"] = "Who has" := rfl
    rw [unwords_append (List.cons_ne_nil _ _) (by simp), unwords_append (List.cons_ne_nil _ _) hne,
      hopening, ← String.toList_inj]
    simp [Template.sentence, unwords_singleton]
  | starring term anchor =>
    obtain ⟨⟨vs, ⟨hvne, hvwords, rfl⟩, hnone⟩, ws, ⟨hne, hwords, rfl⟩, hend⟩ := h
    refine ⟨["Tell", "me", "the"] ++ (vs ++ (["of"] ++ ws)), by simp,
      words_append (isWord_of_subset (by decide))
        (words_append hvwords (words_append (isWord_of_subset (by decide)) hwords)),
      endsPlainly_append (endsPlainly_append (endsPlainly_append hend hne) (by simp)) (by simp),
      ?_, classify_tellMeThe hvne hnone hne⟩
    have hopening : unwords ["Tell", "me", "the"] = "Tell me the" := rfl
    rw [unwords_append (List.cons_ne_nil _ _) (by simp), unwords_append hvne (by simp),
      unwords_append (List.cons_ne_nil _ _) hne, hopening, ← String.toList_inj]
    simp [Template.sentence, unwords_singleton]
  | quantity count term =>
    obtain ⟨hpos, hcount, hnumber, hterm, hmark⟩ := h
    refine ⟨["Tell", "me"] ++ ([toString count] ++ [term]), by simp,
      words_append (isWord_of_subset (by decide))
        (words_append (by simpa using isWord_toString count) (by simpa using hterm)),
      endsPlainly_append (endsPlainly_append (by simpa [EndsPlainly] using hmark) (by simp))
        (by simp), ?_, (classify_tellMeCount hpos hcount term).trans (by rw [hnumber]; rfl)⟩
    have hopening : unwords ["Tell", "me"] = "Tell me" := rfl
    rw [unwords_append (List.cons_ne_nil _ _) (by simp),
      unwords_append (List.cons_ne_nil _ _) (List.cons_ne_nil _ _), hopening, ← String.toList_inj]
    simp [Template.sentence, unwords_singleton]

/-! ### What is read comes from the words -/

theorem take_append_slice {start stop : Nat} (h : start ≤ stop) :
    tokens.take start ++ (tokens.take stop).drop start ++ tokens.drop stop = tokens := by
  have hfront : tokens.take start = (tokens.take stop).take start := by
    rw [List.take_take, Nat.min_eq_left h]
  rw [hfront, List.take_append_drop, List.take_append_drop]

theorem getElem?_eq_getD {i : Nat} (h : i < tokens.length) :
    tokens[i]? = some (tokens.getD i "") := by
  rw [List.getD_eq_getElem?_getD, List.getElem?_eq_getElem h]
  rfl

theorem drop_eq_getD_cons {i : Nat} (h : i < tokens.length) :
    tokens.drop i = tokens.getD i "" :: tokens.drop (i + 1) := by
  rw [List.drop_eq_getElem_cons h, List.getD_eq_getElem?_getD, List.getElem?_eq_getElem h]
  rfl

theorem place_of_ofPlace? {place : Nat} (h : ofPlace? tokens = some place) :
    place + 1 < tokens.length := by
  unfold ofPlace? at h
  rw [Option.filter_eq_some_iff] at h
  exact of_decide_eq_true h.2

theorem isTakenFrom_of_classifyQuantity (h : classifyQuantity tokens = .ok t) :
    t.IsTakenFrom tokens := by
  unfold classifyQuantity at h
  extract_lets early place word term at h
  obtain ⟨_, hlength, h⟩ := bind_ok_iff.mp h
  rw [require_ok_iff] at hlength
  cases hcount : (numeral? maxCount word).filter (0 < ·) with
  | none =>
    rw [hcount] at h
    cases h
  | some count =>
    rw [hcount] at h
    obtain ⟨_, _, h⟩ := bind_ok_iff.mp h
    cases h
    rw [Option.filter_eq_some_iff] at hcount
    refine ⟨tokens.take place, word, tokens.drop (place + 2), ?_, hcount.1,
      of_decide_eq_true hcount.2⟩
    rw [← drop_eq_getD_cons (by omega : place + 1 < tokens.length),
      ← drop_eq_getD_cons (by omega : place < tokens.length), List.take_append_drop]

theorem isTakenFrom_of_classifyTell (h : classifyTell tokens = .ok t) : t.IsTakenFrom tokens := by
  unfold classifyTell at h
  split at h
  · rename_i place hplace
    have hlength := place_of_ofPlace? hplace
    split at h
    · obtain ⟨_, _, h⟩ := bind_ok_iff.mp h
      cases h
      have hne : tokens.drop (place + 1) ≠ [] := List.ne_nil_of_length_pos (by simp; omega)
      by_cases hsmall : place < 3
      · -- the word `of` comes before the place of a term, which is empty
        have hnone : (tokens.take place).drop 3 = [] := by
          rw [List.drop_eq_nil_iff, List.length_take]
          omega
        refine ⟨tokens.take (place + 1), [], [], tokens.drop (place + 1), [], by simp, hne, rfl, ?_⟩
        unfold between
        rw [hnone]
      · refine ⟨tokens.take 3, (tokens.take place).drop 3, [tokens.getD place ""],
          tokens.drop (place + 1), [], ?_, hne, rfl, rfl⟩
        rw [List.append_nil, List.append_assoc _ [_], List.singleton_append,
          ← drop_eq_getD_cons (by omega), take_append_slice (by omega)]
    · exact isTakenFrom_of_classifyQuantity h
  · exact isTakenFrom_of_classifyQuantity h

/-- **Whatever is read is taken from the words of the question**, letter by letter. -/
theorem isTakenFrom_of_classify (h : classify tokens = .ok t) : t.IsTakenFrom tokens := by
  unfold classify at h
  split at h
  · cases h
  split at h
  · obtain ⟨_, hlength, h⟩ := bind_ok_iff.mp h
    rw [require_ok_iff] at hlength
    cases h
    exact ⟨tokens.take 2, tokens.drop 2, [], by simp,
      List.ne_nil_of_length_pos (by simp; omega), rfl⟩
  split at h
  · obtain ⟨_, hlength, h⟩ := bind_ok_iff.mp h
    rw [require_ok_iff] at hlength
    cases h
    exact ⟨tokens.take 2, (tokens.take (tokens.length - 1)).drop 2, tokens.drop (tokens.length - 1),
      (take_append_slice (by omega)).symm, List.ne_nil_of_length_pos (by simp; omega), rfl⟩
  split at h
  · obtain ⟨_, hlength, h⟩ := bind_ok_iff.mp h
    rw [require_ok_iff] at hlength
    cases h
    refine ⟨tokens.take 2, [], tokens.drop 3, [], ?_, List.ne_nil_of_length_pos (by simp; omega),
      rfl⟩
    rw [List.append_nil, List.append_nil, List.append_assoc, List.singleton_append,
      ← drop_eq_getD_cons (by omega), List.take_append_drop]
  split at h
  · exact isTakenFrom_of_classifyTell h
  · cases h

/-! ### Places where there is a word -/

/-- The run of words from place `start` up to place `stop`; nothing when it ends before it starts or
reaches beyond the end. -/
def run? (tokens : List String) (start stop : Nat) : Option (List String) :=
  if start ≤ stop ∧ stop ≤ tokens.length then some ((tokens.take stop).drop start) else none

/-- Goes on when there are enough words. -/
def requiring (tokens : List String) (minimum : Nat) (rest : Option (Except Failure Template)) :
    Option (Except Failure Template) :=
  if tokens.length < minimum then some (.error .malformedQuestion) else rest

/-- `Question.classifyQuantity`, with nothing for an answer once a word is looked for at a place where
there is none. -/
def strictQuantity (tokens : List String) : Option (Except Failure Template) :=
  let early := ((tokens[1]?).bind (numeral? maxCount)).isSome
  let place := if early then 1 else 2
  requiring tokens (place + 2) do
    let word ← tokens[place]?
    match (numeral? maxCount word).filter (0 < ·) with
    | none => some (.error (.nonNumericQuantity word))
    | some count =>
      let term ← tokens[place + 1]?
      some do
        checkNumber term count
        pure (.quantity count term)

/-- `Question.classifyTell` in the same way.  For the term of a starring question it is asked whether
there is such a run. -/
def strictTell (tokens : List String) : Option (Except Failure Template) :=
  match ofPlace? tokens with
  | some place =>
    if hasWord tokens 2 "the" then
      requiring tokens 6 do
        let anchor ← run? tokens (place + 1) tokens.length
        some (.ok (.starring (((run? tokens 3 place).map unwords).getD "") (unwords anchor)))
    else strictQuantity tokens
  | none => strictQuantity tokens

/-- `Question.classify` in the same way. -/
def strictClassify (tokens : List String) : Option (Except Failure Template) :=
  if tokens.isEmpty then some (.error .malformedQuestion)
  else if hasWord tokens 0 "what" || hasWord tokens 0 "is" || hasWord tokens 1 "is" then
    requiring tokens 3 do
      let anchor ← run? tokens 2 tokens.length
      some (.ok (.typeOf (unwords anchor)
        (if hasWord tokens 0 "who" then .persons else .nonPersons)))
  else if hasWord tokens 0 "where" then
    requiring tokens 4 do
      let anchor ← run? tokens 2 (tokens.length - 1)
      some (.ok (.birthplace (unwords anchor)))
  else if hasWord tokens 1 "has" then
    requiring tokens 4 do
      let term ← tokens[2]?
      let anchor ← run? tokens 3 tokens.length
      some (.ok (.property term (unwords anchor)))
  else if hasWord tokens 0 "tell" then strictTell tokens
  else some (.error .unrecognizedForm)

theorem run?_eq_some {start stop : Nat} (h : start ≤ stop) (h' : stop ≤ tokens.length) :
    run? tokens start stop = some ((tokens.take stop).drop start) := if_pos ⟨h, h'⟩

theorem run?_length {start : Nat} (h : start ≤ tokens.length) :
    run? tokens start tokens.length = some (tokens.drop start) := by
  rw [run?_eq_some h (Nat.le_refl _), List.take_length]

/-- A run that is asked for is the one between the places, and it is empty when there is none. -/
theorem getD_run? {start stop : Nat} (h : stop ≤ tokens.length) :
    ((run? tokens start stop).map unwords).getD "" = between tokens start stop := by
  unfold between
  by_cases hle : start ≤ stop
  · rw [run?_eq_some hle h]
    rfl
  · have hnone : (tokens.take stop).drop start = [] := by
      rw [List.drop_eq_nil_iff, List.length_take]
      omega
    rw [run?, if_neg fun h => hle h.1, hnone]
    rfl

/-- Where enough words are asked for first, the rest may rely on them. -/
theorem requiring_eq {minimum : Nat} {rest : Option (Except Failure Template)}
    {next : Except Failure Template} (h : minimum ≤ tokens.length → rest = some next) :
    requiring tokens minimum rest = some (require tokens minimum >>= fun _ => next) := by
  unfold requiring require
  split
  · rfl
  · rename_i hlength
    rw [h (Nat.not_lt.mp hlength)]
    rfl

theorem strictQuantity_eq (tokens : List String) :
    strictQuantity tokens = some (classifyQuantity tokens) := by
  unfold strictQuantity classifyQuantity
  extract_lets early place word term
  refine requiring_eq fun hlength => ?_
  rw [getElem?_eq_getD (by omega : place < tokens.length),
    getElem?_eq_getD (by omega : place + 1 < tokens.length)]
  dsimp only [Option.bind_eq_bind, Option.bind_some]
  cases (numeral? maxCount word).filter (0 < ·) with
  | none => rfl
  | some count => rfl

theorem strictTell_eq (tokens : List String) : strictTell tokens = some (classifyTell tokens) := by
  unfold strictTell classifyTell
  cases hplace : ofPlace? tokens with
  | none => exact strictQuantity_eq tokens
  | some place =>
    have hlength := place_of_ofPlace? hplace
    dsimp only
    split
    · refine requiring_eq fun _ => ?_
      rw [run?_length (by omega), getD_run? (by omega)]
      rfl
    · exact strictQuantity_eq tokens

/-- **No form looks for a word at a place where there is none**, nor for a run that ends before it
starts. -/
theorem strictClassify_eq (tokens : List String) :
    strictClassify tokens = some (classify tokens) := by
  unfold strictClassify classify
  split
  · rfl
  split
  · refine requiring_eq fun hlength => ?_
    rw [run?_length (by omega)]
    rfl
  split
  · refine requiring_eq fun hlength => ?_
    rw [run?_eq_some (by omega) (by omega)]
    rfl
  split
  · refine requiring_eq fun hlength => ?_
    rw [getElem?_eq_getD (by omega), run?_length (by omega)]
    rfl
  split
  · exact strictTell_eq tokens
  · rfl

/-- **The forms of questions are decoded faithfully.**  A template comes back from its sentence, with
or without a question mark after it, whatever words it is made of; whatever is read from a list of
words, its anchor and its term are runs of these words; and every place that is looked at is one where
there is a word. -/
theorem forms_decoded :
    (∀ t : Template, t.IsAskable →
      template t.sentence = .ok t ∧ template (t.sentence ++ " ?") = .ok t) ∧
    (∀ tokens t, classify tokens = .ok t → t.IsTakenFrom tokens) ∧
    ∀ tokens, strictClassify tokens = some (classify tokens) := by
  refine ⟨fun t ht => ?_, fun _ _ => isTakenFrom_of_classify, strictClassify_eq⟩
  obtain ⟨tokens, h⟩ := exists_spells ht
  obtain ⟨hwords, hmarked⟩ := words_sentence h.ne_nil h.words h.endsPlainly
  unfold template
  rw [h.sentence, hwords, hmarked, h.classify]
  exact ⟨rfl, rfl⟩

/-- A question whose parts contain the words that other forms go by. -/
def whoHasOfIs : Template := .starring "who has 3 films?" "Is the Man of Tell"

theorem forms_decoded_whoHasOfIs :
    whoHasOfIs.IsAskable ∧
      template "Tell me the who has 3 films? of Is the Man of Tell ?" = .ok whoHasOfIs ∧
      whoHasOfIs.IsTakenFrom (words whoHasOfIs.sentence) ∧
      strictClassify (words whoHasOfIs.sentence) = some (.ok whoHasOfIs) := by
  have hask : whoHasOfIs.IsAskable := by
    refine ⟨⟨["who", "has", "3", "films?"], ⟨⟨by decide, by decide, by decide⟩, by decide⟩⟩,
      ["Is", "the", "Man", "of", "Tell"], ⟨by decide, by decide, by decide⟩, ?_⟩
    unfold EndsPlainly
    decide
  have hsentence : whoHasOfIs.sentence ++ " ?" =
      "Tell me the who has 3 films? of Is the Man of Tell ?" := by decide
  have hread := forms_decoded.1 _ hask
  refine ⟨hask, hsentence ▸ hread.2, forms_decoded.2.1 _ _ hread.1, ?_⟩
  rw [forms_decoded.2.2]
  exact congrArg some hread.1

end Question

end GraphAnswers
