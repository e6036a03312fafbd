import GraphAnswers.Proofs.NumberAgreement
/-!
# Keywords in any case

The words that a question is recognised by may be written in any mixture of upper and lower case,
all but one.  `Question.Respelled` relates two lists of words that differ in the case of keywords
only, and `Question.Reading` is what is read apart from the words themselves: the form, the filter,
the count and the places of the parts.  Respelled questions have the same reading as long as the
word `of` is left alone.  That word is looked for through the whole question, and there in lower
case only, so a starring question is read as another one when its `of` is respelled.
-/
namespace GraphAnswers

open Text

namespace Question

variable {tokens other : List String}

/-! ### Words that act as keywords -/

/-- Whether a question is one of those that open with `tell`, the verbs of the other forms being
looked for first. -/
structure Tells (tokens : List String) : Prop where
  tell : hasWord tokens 0 "tell" = true
  not_is : hasWord tokens 1 "is" = false
  not_has : hasWord tokens 1 "has" = false

/-- The words that the first word of a question is compared with. -/
def openings : List String := ["what", "who", "is", "where", "tell"]

/-- The words that the second one is compared with. -/
def verbs : List String := ["is", "has"]

/-- **The places of the keywords of a question.**  The word `the` is one when an `of` follows
somewhere, and also where a count is expected; after a count it is the term. -/
inductive Keyword (tokens : List String) : Nat → Prop
  | opening {keyword : String} (among : keyword ∈ openings)
      (word : hasWord tokens 0 keyword = true) : Keyword tokens 0
  | verb {keyword : String} (among : keyword ∈ verbs)
      (word : hasWord tokens 1 keyword = true) : Keyword tokens 1
  | the (tells : Tells tokens) (word : hasWord tokens 2 "the" = true)
      (slot : (ofPlace? tokens).isSome = true ∨
        ((tokens[1]?).bind (numeral? maxCount)).isSome = false) : Keyword tokens 2
  | of {place : Nat} (tells : Tells tokens) (word : hasWord tokens 2 "the" = true)
      (found : ofPlace? tokens = some place) : Keyword tokens place

/-- **The same question with its keywords in another case**: the same words at the same places, up
to the case of those that act as keywords. -/
structure Respelled (tokens other : List String) : Prop where
  length_eq : other.length = tokens.length
  word : ∀ {i v w}, other[i]? = some v → tokens[i]? = some w →
    v = w ∨ Keyword tokens i ∧ sameLetters v w = true

/-- Whether the word `of` that a question is cut at is spelled in the same way. -/
def KeepsOf (tokens other : List String) : Prop :=
  ∀ place, ofPlace? tokens = some place → other[place]? = tokens[place]?

/-! ### What is read, apart from the words -/

/-- **What is read of a question**: the form with its filter and count, and the places of its parts;
or the failure.  For a word that is no count, it is the place of that word. -/
inductive Reading where
  | typeOf (filter : PersonFilter)
  | birthplace
  | property
  | starring (place : Nat)
  | quantity (count place : Nat)
  | noCount (place : Nat)
  | fails (failure : Failure)

/-- What a reading comes to for given words, which are taken as they are. -/
def Reading.outcome (tokens : List String) : Reading → Except Failure Template
  | typeOf filter => .ok (.typeOf (unwords (tokens.drop 2)) filter)
  | birthplace => .ok (.birthplace (between tokens 2 (tokens.length - 1)))
  | property => .ok (.property (tokens.getD 2 "") (unwords (tokens.drop 3)))
  | starring place =>
    .ok (.starring (between tokens 3 place) (unwords (tokens.drop (place + 1))))
  | quantity count place => .ok (.quantity count (tokens.getD place ""))
  | noCount place => .error (.nonNumericQuantity (tokens.getD place ""))
  | fails failure => .error failure

/-- Whether two outcomes are those of one reading, for the words of two questions. -/
def Alike (tokens other : List String) (outcome outcome' : Except Failure Template) : Prop :=
  ∃ reading : Reading, outcome = reading.outcome tokens ∧ outcome' = reading.outcome other

namespace Alike

variable {outcome outcome' second second' : Except Failure Template}

theorem fails (failure : Failure) : Alike tokens other (.error failure) (.error failure) :=
  ⟨.fails failure, rfl, rfl⟩

/-- Two branches, of which both questions take the same. -/
theorem ite {p : Prop} [Decidable p] (hpos : p → Alike tokens other outcome outcome')
    (hneg : ¬p → Alike tokens other second second') :
    Alike tokens other (if p then outcome else second) (if p then outcome' else second') := by
  by_cases hp : p
  · rw [if_pos hp, if_pos hp]
    exact hpos hp
  · rw [if_neg hp, if_neg hp]
    exact hneg hp

/-- What is asked of the number of words is the same for both. -/
theorem require (hlength : other.length = tokens.length) {minimum : Nat}
    (h : minimum ≤ tokens.length → Alike tokens other outcome outcome') :
    Alike tokens other (Question.require tokens minimum >>= fun _ => outcome)
      (Question.require other minimum >>= fun _ => outcome') := by
  unfold Question.require
  rw [hlength]
  by_cases hshort : tokens.length < minimum
  · rw [if_pos hshort]
    exact fails _
  · rw [if_neg hshort]
    exact h (Nat.not_lt.mp hshort)

end Alike

/-! ### The letters of keywords -/

theorem sameLetters_congr {v w : String} (h : sameLetters v w = true) (keyword : String) :
    sameLetters v keyword = sameLetters w keyword := by
  unfold sameLetters at *
  rw [beq_iff_eq.mp h]

theorem numeral?_eq_none {bound : Nat} {s : String} {c : Char} {cs : List Char}
    (hs : s.toList = c :: cs) (hdigit : c.isDigit = false) (hplus : c ≠ '+') :
    numeral? bound s = none := by
  have hdigits : digits? (c :: cs) = none := by
    rw [digits?, digitsFrom, hdigit, if_neg Bool.false_ne_true]
    exact List.cons_ne_nil c cs
  unfold numeral?
  rw [hs]
  split
  · rename_i heq
    exact absurd (List.cons.inj heq).1 hplus
  · rw [hdigits]
    rfl

/-- The word `the` is no numeral, however it is spelled. -/
theorem numeral?_the {bound : Nat} {w : String} (h : sameLetters w "the" = true) :
    numeral? bound w = none := by
  unfold sameLetters at h
  have hletters : w.toList.map Char.toLower = ['t', 'h', 'e'] := beq_iff_eq.mp h
  cases hw : w.toList with
  | nil =>
    rw [hw] at hletters
    cases hletters
  | cons c cs =>
    rw [hw, List.map_cons] at hletters
    have hlower : c.toLower = 't' := (List.cons.inj hletters).1
    have hdigit : c.isDigit = false := by
      rw [Bool.eq_false_iff]
      intro hdigit
      rw [toLower_of_isDigit hdigit] at hlower
      rw [hlower] at hdigit
      exact absurd hdigit (by decide)
    refine numeral?_eq_none hw hdigit ?_
    rintro rfl
    exact absurd hlower (by decide)

/-! ### What a question and a respelled one share -/

/-- Replacing one keyword by the same letters in another case. -/
theorem respelled_set {i : Nat} {v w : String} (hw : tokens[i]? = some w)
    (hkeyword : Keyword tokens i) (hletters : sameLetters v w = true) :
    Respelled tokens (tokens.set i v) := by
  refine ⟨List.length_set, fun {j u u'} hu hu' => ?_⟩
  by_cases hij : i = j
  · subst hij
    have hlength : i < tokens.length := (List.getElem?_eq_some_iff.mp hw).1
    rw [List.getElem?_set_self hlength] at hu
    rw [hw] at hu'
    cases hu
    cases hu'
    exact .inr ⟨hkeyword, hletters⟩
  · rw [List.getElem?_set_ne hij, hu'] at hu
    cases hu
    exact .inl rfl

theorem hasWord_iff {i : Nat} {keyword : String} :
    hasWord tokens i keyword = true ↔ ∃ w, tokens[i]? = some w ∧ sameLetters w keyword = true := by
  unfold hasWord
  rw [Option.any_eq_true]

/-- The place of `of` is the first one where that word is. -/
theorem ofPlace?_first {place : Nat} (h : ofPlace? tokens = some place) :
    tokens[place]? = some "of" ∧ ∀ i, tokens[i]? = some "of" → place ≤ i := by
  unfold ofPlace? at h
  rw [Option.filter_eq_some_iff, List.findIdx?_eq_some_iff_getElem] at h
  obtain ⟨⟨hlength, hword, hbefore⟩, _⟩ := h
  refine ⟨List.getElem?_eq_some_iff.mpr ⟨hlength, beq_iff_eq.mp hword⟩, fun i hi => ?_⟩
  obtain ⟨hlt, hi⟩ := List.getElem?_eq_some_iff.mp hi
  by_contra hbelow
  exact hbefore i (Nat.lt_of_not_le hbelow) (beq_iff_eq.mpr hi)

/-- A word that is read as a keyword of other letters than `of` has other letters than `of`. -/
theorem differs_of_hasWord {i : Nat} {keyword w : String} (hword : hasWord tokens i keyword = true)
    (hw : tokens[i]? = some w) (hkeyword : sameLetters "of" keyword = false) :
    sameLetters "of" w = false := by
  obtain ⟨w', hw', hletters⟩ := hasWord_iff.mp hword
  rw [hw] at hw'
  cases hw'
  rw [Bool.eq_false_iff]
  intro hof
  rw [sameLetters_congr hof, hletters] at hkeyword
  cases hkeyword

/-- Every keyword but `of` has letters that `of` has not. -/
theorem Keyword.of_or_differs {i : Nat} (h : Keyword tokens i) :
    ofPlace? tokens = some i ∨ ∀ w, tokens[i]? = some w → sameLetters "of" w = false := by
  have hopenings : ∀ keyword ∈ openings, sameLetters "of" keyword = false := by decide
  have hverbs : ∀ keyword ∈ verbs, sameLetters "of" keyword = false := by decide
  cases h with
  | opening among word =>
    exact .inr fun w hw => differs_of_hasWord word hw (hopenings _ among)
  | verb among word => exact .inr fun w hw => differs_of_hasWord word hw (hverbs _ among)
  | the _ word _ => exact .inr fun w hw => differs_of_hasWord word hw (by decide)
  | of _ _ found => exact .inl found

/-- In a question that opens with `tell`, no word at the second place is a keyword. -/
theorem Keyword.of_tells {i : Nat} (h : Keyword tokens i) (tells : Tells tokens) :
    i = 0 ∨ i = 2 ∨ ofPlace? tokens = some i := by
  cases h with
  | opening _ _ => exact .inl rfl
  | verb among word =>
    rcases List.mem_cons.mp among with rfl | among
    · rw [tells.not_is] at word
      cases word
    · rw [List.mem_singleton.mp among, tells.not_has] at word
      cases word
  | the _ _ _ => exact .inr (.inl rfl)
  | of _ _ found => exact .inr (.inr found)

namespace Respelled

variable (h : Respelled tokens other)
include h

/-- At every place there is a word in both questions or in neither. -/
theorem none_or_words (i : Nat) : (other[i]? = none ∧ tokens[i]? = none) ∨
    ∃ v w, other[i]? = some v ∧ tokens[i]? = some w ∧
      (v = w ∨ Keyword tokens i ∧ sameLetters v w = true) := by
  by_cases hi : i < tokens.length
  · have hi' : i < other.length := by rw [h.length_eq]; exact hi
    exact .inr ⟨_, _, List.getElem?_eq_getElem hi', List.getElem?_eq_getElem hi,
      h.word (List.getElem?_eq_getElem hi') (List.getElem?_eq_getElem hi)⟩
  · have hi' : ¬i < other.length := by rw [h.length_eq]; exact hi
    exact .inl ⟨List.getElem?_eq_none (Nat.not_lt.mp hi'), List.getElem?_eq_none (Nat.not_lt.mp hi)⟩

theorem hasWord_eq (i : Nat) (keyword : String) :
    hasWord other i keyword = hasWord tokens i keyword := by
  unfold hasWord
  rcases h.none_or_words i with ⟨ho, ht⟩ | ⟨v, w, ho, ht, rfl | ⟨_, hletters⟩⟩
  · rw [ho, ht]
  · rw [ho, ht]
  · rw [ho, ht]
    exact sameLetters_congr hletters keyword

theorem getElem?_eq {i : Nat} (hi : ¬Keyword tokens i) : other[i]? = tokens[i]? := by
  rcases h.none_or_words i with ⟨ho, ht⟩ | ⟨v, w, ho, ht, rfl | ⟨hkeyword, _⟩⟩
  · rw [ho, ht]
  · rw [ho, ht]
  · exact absurd hkeyword hi

/-- No other word becomes an `of`. -/
theorem of_of_other {i : Nat} (hi : other[i]? = some "of") : tokens[i]? = some "of" := by
  rcases h.none_or_words i with ⟨ho, _⟩ | ⟨v, w, ho, ht, hsame⟩
  · rw [ho] at hi
    cases hi
  · rw [ho] at hi
    cases hi
    rcases hsame with rfl | ⟨hkeyword, hletters⟩
    · exact ht
    · rcases hkeyword.of_or_differs with hplace | hdiffers
      · exact (ofPlace?_first hplace).1
      · rw [hdiffers _ ht] at hletters
        cases hletters

/-- The word `of` stays where it is when it is spelled as before at the place that counts. -/
theorem of_of_tokens (hof : KeepsOf tokens other) {i : Nat} (hi : tokens[i]? = some "of") :
    other[i]? = some "of" := by
  by_cases hkeyword : Keyword tokens i
  · rcases hkeyword.of_or_differs with hplace | hdiffers
    · exact (hof i hplace).trans hi
    · exact absurd (hdiffers _ hi) (by decide)
  · exact (h.getElem?_eq hkeyword).trans hi

theorem ofPlace?_eq (hof : KeepsOf tokens other) : ofPlace? other = ofPlace? tokens := by
  have hmarks : other.map (· == "of") = tokens.map (· == "of") := by
    refine List.ext_getElem? fun i => ?_
    rw [List.getElem?_map, List.getElem?_map]
    rcases h.none_or_words i with ⟨ho, ht⟩ | ⟨v, w, ho, ht, _⟩
    · rw [ho, ht]
    · rw [ho, ht]
      have hiff : v = "of" ↔ w = "of" := by
        constructor
        · rintro rfl
          exact Option.some.inj (ht.symm.trans (h.of_of_other ho))
        · rintro rfl
          exact Option.some.inj (ho.symm.trans (h.of_of_tokens hof ht))
      rw [Option.map_some, Option.map_some, Option.some.injEq, Bool.eq_iff_iff, beq_iff_eq,
        beq_iff_eq]
      exact hiff
  have hfind (ws : List String) :
      ws.findIdx? (· == "of") = (ws.map (· == "of")).findIdx? id := by
    rw [List.findIdx?_map]
    rfl
  unfold ofPlace?
  rw [hfind, hfind, hmarks, h.length_eq]

/-- In a question that opens with `tell`, all words after the first but `the` are the same. -/
theorem getElem?_eq_of_tells (hof : KeepsOf tokens other) (tells : Tells tokens) {i : Nat}
    (hi : i ≠ 0) (hthe : i = 2 → ¬Keyword tokens 2) : other[i]? = tokens[i]? := by
  by_cases hkeyword : Keyword tokens i
  · rcases hkeyword.of_tells tells with rfl | rfl | hplace
    · exact absurd rfl hi
    · exact absurd hkeyword (hthe rfl)
    · exact hof i hplace
  · exact h.getElem?_eq hkeyword

end Respelled

/-! ### Reading the forms -/

/-- A question for a count is read from the words after the first. -/
theorem alike_quantity_of_eq (hlength : other.length = tokens.length)
    (hsame : ∀ i, i ≠ 0 → other[i]? = tokens[i]?) :
    Alike tokens other (classifyQuantity tokens) (classifyQuantity other) := by
  unfold classifyQuantity
  rw [hsame 1 Nat.one_ne_zero]
  dsimp only
  have hplace : (if ((tokens[1]?).bind (numeral? maxCount)).isSome then 1 else 2) ≠ 0 := by
    split <;> omega
  generalize (if ((tokens[1]?).bind (numeral? maxCount)).isSome then 1 else 2) = place at hplace ⊢
  have hword : other.getD place "" = tokens.getD place "" := by
    rw [List.getD_eq_getElem?_getD, List.getD_eq_getElem?_getD, hsame place hplace]
  have hterm : other.getD (place + 1) "" = tokens.getD (place + 1) "" := by
    rw [List.getD_eq_getElem?_getD, List.getD_eq_getElem?_getD, hsame _ (Nat.succ_ne_zero place)]
  refine Alike.require hlength fun _ => ?_
  rw [hword, hterm]
  cases (numeral? maxCount (tokens.getD place "")).filter (0 < ·) with
  | none => exact .fails _
  | some count =>
    dsimp only
    cases checkNumber (tokens.getD (place + 1) "") count with
    | error failure => exact .fails failure
    | ok _ =>
      refine ⟨.quantity count (place + 1), rfl, ?_⟩
      rw [Reading.outcome, hterm]
      rfl

/-- Where `the` stands for a count, no count is found. -/
theorem alike_quantity_of_the (h : Respelled tokens other)
    (hsecond : other[1]? = tokens[1]?) (hthe : hasWord tokens 2 "the" = true)
    (hslot : ((tokens[1]?).bind (numeral? maxCount)).isSome = false) :
    Alike tokens other (classifyQuantity tokens) (classifyQuantity other) := by
  have hnone {ws : List String} (hword : hasWord ws 2 "the" = true) :
      numeral? maxCount (ws.getD 2 "") = none := by
    obtain ⟨w, hw, hletters⟩ := hasWord_iff.mp hword
    rw [List.getD_eq_getElem?_getD, hw]
    exact numeral?_the hletters
  unfold classifyQuantity
  rw [hsecond, hslot]
  dsimp only
  rw [if_neg Bool.false_ne_true, hnone hthe, hnone ((h.hasWord_eq 2 "the").trans hthe)]
  exact Alike.require h.length_eq fun _ => ⟨.noCount 2, rfl, rfl⟩

theorem alike_quantity (h : Respelled tokens other) (hof : KeepsOf tokens other)
    (tells : Tells tokens) (hno : hasWord tokens 2 "the" = true → ofPlace? tokens = none) :
    Alike tokens other (classifyQuantity tokens) (classifyQuantity other) := by
  by_cases hkeyword : Keyword tokens 2
  · have hsecond : other[1]? = tokens[1]? :=
      h.getElem?_eq_of_tells hof tells (by omega) (by omega)
    cases hkeyword with
    | the _ word slot =>
      rw [hno word] at slot
      exact alike_quantity_of_the h hsecond word (slot.resolve_left (by simp))
    | of _ word found =>
      rw [hno word] at found
      cases found
  · exact alike_quantity_of_eq h.length_eq fun i hi =>
      h.getElem?_eq_of_tells hof tells hi fun _ => hkeyword

theorem alike_tell (h : Respelled tokens other) (hof : KeepsOf tokens other)
    (tells : Tells tokens) :
    Alike tokens other (classifyTell tokens) (classifyTell other) := by
  unfold classifyTell
  rw [h.ofPlace?_eq hof, h.hasWord_eq]
  cases hplace : ofPlace? tokens with
  | none => exact alike_quantity h hof tells fun _ => hplace
  | some place =>
    refine .ite (fun _ => .require h.length_eq fun _ => ⟨.starring place, rfl, rfl⟩) fun hthe => ?_
    exact alike_quantity h hof tells fun hword => absurd hword hthe

theorem alike_classify (h : Respelled tokens other) (hof : KeepsOf tokens other) :
    Alike tokens other (classify tokens) (classify other) := by
  have hempty : other.isEmpty = tokens.isEmpty := by
    rw [Bool.eq_iff_iff, List.isEmpty_iff_length_eq_zero, List.isEmpty_iff_length_eq_zero,
      h.length_eq]
  unfold classify
  rw [hempty]
  simp only [h.hasWord_eq]
  refine .ite (fun _ => .fails _) fun _ => ?_
  refine .ite (fun _ => .require h.length_eq fun _ => ⟨.typeOf _, rfl, rfl⟩) fun htype => ?_
  refine .ite (fun _ => .require h.length_eq fun _ => ⟨.birthplace, rfl, rfl⟩) fun _ => ?_
  refine .ite (fun _ => .require h.length_eq fun _ => ⟨.property, rfl, rfl⟩) fun hhas => ?_
  refine .ite (fun htell => alike_tell h hof ⟨htell, ?_, ?_⟩) fun _ => .fails _
  · rw [Bool.or_eq_true, not_or] at htype
    exact Bool.eq_false_iff.mpr htype.2
  · exact Bool.eq_false_iff.mpr hhas

/-! ### A respelled `of` -/

variable {term anchor : String}

/-- A starring question is one that opens with `tell`, and its anchor is all that follows `of`. -/
theorem starring_of_classify (h : classify tokens = .ok (.starring term anchor)) :
    ∃ place, ofPlace? tokens = some place ∧ Tells tokens ∧ hasWord tokens 2 "the" = true ∧
      anchor = unwords (tokens.drop (place + 1)) := by
  have hquantity : classifyQuantity tokens ≠ .ok (.starring term anchor) := by
    intro h
    unfold classifyQuantity at h
    extract_lets early place word after at h
    obtain ⟨_, _, h⟩ := bind_ok_iff.mp h
    cases hcount : (numeral? maxCount word).filter (0 < ·) with
    | none =>
      rw [hcount] at h
      cases h
    | some count =>
      rw [hcount] at h
      obtain ⟨_, _, h⟩ := bind_ok_iff.mp h
      cases h
  unfold classify at h
  split at h
  · cases h
  split at h
  · obtain ⟨_, _, h⟩ := bind_ok_iff.mp h
    cases h
  rename_i htype
  split at h
  · obtain ⟨_, _, h⟩ := bind_ok_iff.mp h
    cases h
  split at h
  · obtain ⟨_, _, h⟩ := bind_ok_iff.mp h
    cases h
  rename_i hhas
  split at h
  · rename_i htell
    rw [Bool.or_eq_true, not_or] at htype
    unfold classifyTell at h
    cases hplace : ofPlace? tokens with
    | none =>
      rw [hplace] at h
      exact absurd h hquantity
    | some place =>
      rw [hplace] at h
      dsimp only at h
      split at h
      · rename_i hthe
        obtain ⟨_, _, h⟩ := bind_ok_iff.mp h
        cases h
        exact ⟨place, rfl, ⟨htell, Bool.eq_false_iff.mpr htype.2, Bool.eq_false_iff.mpr hhas⟩,
          hthe, rfl⟩
      · exact absurd h hquantity
  · cases h

/-- Fewer words at the end of a question are a shorter text. -/
theorem unwords_drop_ne {start stop : Nat} (h : start < stop) (hstop : stop < tokens.length) :
    unwords (tokens.drop start) ≠ unwords (tokens.drop stop) := by
  have hfront : (tokens.take stop).drop start ≠ [] :=
    List.ne_nil_of_length_pos (by simp; omega)
  have hback : tokens.drop stop ≠ [] := List.ne_nil_of_length_pos (by simp; omega)
  have hcut : tokens.drop start = (tokens.take stop).drop start ++ tokens.drop stop := by
    have hwhole := congrArg (List.drop start) (List.take_append_drop stop tokens).symm
    rwa [List.drop_append_of_le_length (by simp; omega)] at hwhole
  intro heq
  rw [hcut, unwords_append hfront hback] at heq
  have hlength := congrArg String.length heq
  rw [String.length_append, String.length_append] at hlength
  have hblank : " ".length = 1 := rfl
  omega

/-- Once its `of` is respelled, a starring question is not read as one about the same anchor: the
question is cut at a later `of`, or at none. -/
theorem Respelled.anchor_ne (h : Respelled tokens other) {place : Nat}
    (hplace : ofPlace? tokens = some place) (hrespelled : other[place]? ≠ tokens[place]?)
    (hread : classify tokens = .ok (.starring term anchor)) (term' : String) :
    classify other ≠ .ok (.starring term' anchor) := by
  intro hother
  obtain ⟨first, hfirst, tells, _, rfl⟩ := starring_of_classify hread
  obtain ⟨later, hlater, _, hthe, hanchor⟩ := starring_of_classify hother
  rw [hplace] at hfirst
  cases hfirst
  have hof := (ofPlace?_first hplace).1
  have hof' := (ofPlace?_first hlater).1
  have hle : place ≤ later := (ofPlace?_first hplace).2 later (h.of_of_other hof')
  have hne : place ≠ later := by
    rintro rfl
    exact hrespelled (hof'.trans hof.symm)
  -- neither the first word nor the third is an `of`
  have hplace_pos : place ≠ 0 := by
    rintro rfl
    exact absurd (differs_of_hasWord tells.tell hof (by decide)) (by decide)
  have hlater_two : later ≠ 2 := by
    rintro rfl
    exact absurd (differs_of_hasWord hthe hof' (by decide)) (by decide)
  have hsame : other.drop (later + 1) = tokens.drop (later + 1) := by
    refine List.ext_getElem? fun i => ?_
    rw [List.getElem?_drop, List.getElem?_drop]
    refine h.getElem?_eq fun hkeyword => ?_
    rcases hkeyword.of_tells tells with hi | hi | hi
    · omega
    · omega
    · rw [hplace, Option.some.injEq] at hi
      omega
  have hlength := place_of_ofPlace? hlater
  rw [h.length_eq] at hlength
  rw [hsame] at hanchor
  exact unwords_drop_ne (by omega) hlength hanchor

/-- **Keywords are recognised in any case, all but `of`.**  When keywords of a question are
respelled and its `of` is not, the same is read: the same form, filter and count, or the same kind
of failure, with the parts taken from the same places, word by word.  A starring question whose
`of` is respelled is never read as one about the same anchor. -/
theorem keyword_case (h : Respelled tokens other) :
    (KeepsOf tokens other → Alike tokens other (classify tokens) (classify other)) ∧
    (¬KeepsOf tokens other → ∀ term anchor, classify tokens = .ok (.starring term anchor) →
      ∀ term', classify other ≠ .ok (.starring term' anchor)) := by
  refine ⟨alike_classify h, fun hof term anchor hread term' => ?_⟩
  unfold KeepsOf at hof
  rw [not_forall] at hof
  obtain ⟨place, hof⟩ := hof
  rw [Classical.not_imp] at hof
  exact h.anchor_ne hof.1 hof.2 hread term'

/-- A question of which four words are keywords. -/
def actorsOfInception : List String := ["Tell", "me", "the", "actors", "of", "Inception"]

theorem actorsOfInception_tells : Tells actorsOfInception := by
  constructor <;> decide

theorem actorsOfInception_place : ofPlace? actorsOfInception = some 4 := by decide

theorem respelled_actorsOfInception :
    Respelled actorsOfInception (actorsOfInception.set 2 "THE") ∧
      Respelled actorsOfInception (actorsOfInception.set 4 "OF") :=
  ⟨respelled_set (w := "the") rfl
      (.the actorsOfInception_tells (by decide) (.inl (by decide))) (by decide),
    respelled_set (w := "of") rfl
      (.of actorsOfInception_tells (by decide) actorsOfInception_place) (by decide)⟩

/-- With `THE` the question about actors is read as before, with `OF` it is not. -/
theorem keyword_case_actors :
    (Respelled actorsOfInception (actorsOfInception.set 2 "THE") ∧
      Respelled actorsOfInception (actorsOfInception.set 4 "OF")) ∧
      Alike actorsOfInception (actorsOfInception.set 2 "THE")
        (.ok (.starring "actors" "Inception"))
        (classify ["Tell", "me", "THE", "actors", "of", "Inception"]) ∧
      ∀ term, classify ["Tell", "me", "the", "actors", "OF", "Inception"] ≠
        .ok (.starring term "Inception") := by
  have hkeeps : KeepsOf actorsOfInception (actorsOfInception.set 2 "THE") := by
    intro place hplace
    rw [actorsOfInception_place] at hplace
    cases hplace
    rfl
  have hloses : ¬KeepsOf actorsOfInception (actorsOfInception.set 4 "OF") := by
    intro hkeeps
    exact absurd (hkeeps 4 actorsOfInception_place) (by decide)
  have hread : classify actorsOfInception = .ok (.starring "actors" "Inception") := by decide
  refine ⟨respelled_actorsOfInception, ?_,
    (keyword_case respelled_actorsOfInception.2).2 hloses _ _ hread⟩
  rw [← hread]
  exact (keyword_case respelled_actorsOfInception.1).1 hkeeps

/-- With `OF` it is read as a question for a count, and the count is missing. -/
theorem of_in_capitals :
    Respelled actorsOfInception (actorsOfInception.set 4 "OF") ∧
      classify actorsOfInception = .ok (.starring "actors" "Inception") ∧
      classify (actorsOfInception.set 4 "OF") = .error (.nonNumericQuantity "the") :=
  ⟨respelled_actorsOfInception.2, by decide, by decide⟩

end Question

end GraphAnswers
