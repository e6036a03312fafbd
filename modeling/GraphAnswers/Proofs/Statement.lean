import GraphAnswers.Dump.Scan
import GraphAnswers.Proofs.Margins
import Mathlib.Data.List.Basic
/-!
# Statements, written and read

A statement is written as three pieces and a dot, with gaps between them and margins around.  Read
back, its line gives these three pieces and nothing else (`Statement.partsOf_core`); so the triple is
made of what each of them contributes (`Statement.scan_line`).  The gaps make no difference, and
neither does the dot.
-/
namespace GraphAnswers.Dump

open GraphAnswers.Text

/-! ### Tokens in a row -/

namespace Token

theorem ofText_nil : ofText [] = [] := ofText.eq_def []

theorem ofText_cons (c : Char) (cs : List Char) : ofText (c :: cs) =
    if isBlank c then ofText cs else (first c cs).1 :: ofText (first c cs).2 :=
  ofText.eq_def (c :: cs)

theorem ofText_blank {c : Char} (h : isBlank c = true) (cs : List Char) :
    ofText (c :: cs) = ofText cs := by
  rw [ofText_cons, if_pos h]

theorem ofText_margin {gap : List Char} (h : IsMargin gap) (cs : List Char) :
    ofText (gap ++ cs) = ofText cs := by
  induction gap with
  | nil => rfl
  | cons c gap ih =>
    rw [List.cons_append, ofText_blank (h c List.mem_cons_self)]
    exact ih fun d hd => h d (List.mem_cons_of_mem c hd)

theorem ofText_first {c : Char} {cs rest : List Char} {token : Token} (hc : isBlank c = false)
    (h : first c cs = (token, rest)) : ofText (c :: cs) = token :: ofText rest := by
  rw [ofText_cons, hc, h]
  rfl

theorem cutAt?_append {a : Char} {inside : List Char} (h : a ∉ inside) (rest : List Char) :
    cutAt? a (inside ++ a :: rest) = some (inside, rest) := by
  induction inside with
  | nil => simp [cutAt?]
  | cons c inside ih =>
    obtain ⟨hc, hinside⟩ := not_or.mp (mt List.mem_cons.mpr h)
    rw [List.cons_append, cutAt?, if_neg (Ne.symm hc), ih hinside]
    rfl

/-- Whether characters may stand between the quotes of a literal. -/
def isBody : List Char → Bool
  | [] => true
  | '"' :: _ => false
  | '\\' :: [] => false
  | '\\' :: c :: cs => c != '\n' && isBody cs
  | _ :: cs => isBody cs

theorem closeQuote?_append {body : List Char} (h : isBody body = true) (rest : List Char) :
    closeQuote? (body ++ '"' :: rest) = some (body, rest) := by
  fun_induction isBody body with
  | case1 => rfl
  | case2 => cases h
  | case3 => cases h
  | case4 c cs ih =>
    obtain ⟨hc, hcs⟩ := Bool.and_eq_true_iff.mp h
    show (if c = '\n' then none else (closeQuote? (cs ++ '"' :: rest)).map _) = _
    rw [if_neg (by simpa using hc), ih hcs]
    rfl
  | case5 c cs hquote hlone hescape ih =>
    -- no backslash stands at the end of the body, where it would escape the closing quote
    rw [List.cons_append, closeQuote?, ih h]
    · rfl
    · exact hquote
    · rintro rfl hnil
      simp at hnil
    · rintro d ds rfl hds
      cases cs with
      | nil => exact hlone rfl rfl
      | cons e es => exact hescape e es rfl rfl

/-- Whether characters are a language tag. -/
def isTag : List Char → Bool
  | [] => false
  | c :: cs => c.isAlpha && cs.all isTagChar

theorem ne_nil_of_isTag {tag : List Char} (h : isTag tag = true) : tag ≠ [] := by
  rintro rfl
  cases h

theorem isTagChar_of_mem {tag : List Char} (h : isTag tag = true) {c : Char} (hc : c ∈ tag) :
    isTagChar c = true := by
  cases tag with
  | nil => cases h
  | cons d cs =>
    obtain ⟨hd, hcs⟩ := Bool.and_eq_true_iff.mp h
    rcases List.mem_cons.mp hc with rfl | hc
    · simp [isTagChar, Char.isAlphanum, hd]
    · exact List.all_eq_true.mp hcs c hc

theorem notMem_of_isTag {tag : List Char} (h : isTag tag = true) {c : Char}
    (hc : isTagChar c = false) : c ∉ tag := by
  intro hmem
  rw [isTagChar_of_mem h hmem] at hc
  cases hc

/-- The characters of tags are hyphens, digits and letters. -/
theorem toNat_of_isTagChar {c : Char} (h : isTagChar c = true) :
    c.toNat = 45 ∨ (48 ≤ c.toNat ∧ c.toNat ≤ 57) ∨ (65 ≤ c.toNat ∧ c.toNat ≤ 90) ∨
      (97 ≤ c.toNat ∧ c.toNat ≤ 122) := by
  have hval : c.val.toNat = c.toNat := rfl
  have hranges : (((decide (c.val ≥ 65 ∧ c.val ≤ 90) ||
      (decide (c.val ≥ 97) && decide (c.val ≤ 122))) ||
      (decide (c.val ≥ 48) && decide (c.val ≤ 57))) || c == '-') = true := h
  simp only [Bool.or_eq_true, Bool.and_eq_true, decide_eq_true_eq, beq_iff_eq, ge_iff_le,
    UInt32.le_iff_toNat_le, UInt32.reduceToNat, hval] at hranges
  rcases hranges with hranges | rfl
  · omega
  · decide

theorem isBlank_of_isTagChar {c : Char} (h : isTagChar c = true) : isBlank c = false := by
  have := toNat_of_isTagChar h
  simp [isBlank]
  omega

/-! ### Each kind of token -/

theorem ofText_iri {inside : List Char} (h : '>' ∉ inside) (rest : List Char) :
    ofText ('<' :: (inside ++ '>' :: rest)) = iri inside :: ofText rest := by
  refine ofText_first (by decide) ?_
  rw [first, if_pos rfl, cutAt?_append h]

theorem ofText_word {c : Char} {cs rest : List Char} (hbracket : c ≠ '<') (hquote : c ≠ '"')
    (hword : ∀ x ∈ c :: cs, isBlank x = false) (hrest : rest.head?.all isBlank = true) :
    ofText (c :: (cs ++ rest)) = bare (c :: cs) :: ofText rest := by
  have hcs : ∀ x ∈ cs, (!isBlank x) = true :=
    fun x hx => by rw [hword x (List.mem_cons_of_mem c hx)]; rfl
  obtain ⟨htake, hdrop⟩ := takeWhile_append_eq hcs (by simpa using hrest)
  refine ofText_first (hword c List.mem_cons_self) ?_
  rw [first, if_neg hbracket, if_neg hquote, openWord, htake, hdrop]

theorem ofText_tagged {body tag rest : List Char} (hbody : isBody body = true)
    (htag : isTag tag = true) (hrest : rest.head?.all (!isTagChar ·) = true) :
    ofText ('"' :: (body ++ '"' :: '@' :: (tag ++ rest))) =
      literal body (some tag) :: ofText rest := by
  have hlanguage : languageTag? ('@' :: (tag ++ rest)) = some (tag, rest) := by
    cases tag with
    | nil => cases htag
    | cons c cs =>
      obtain ⟨hc, hcs⟩ := Bool.and_eq_true_iff.mp htag
      obtain ⟨htake, hdrop⟩ := takeWhile_append_eq (List.all_eq_true.mp hcs) hrest
      rw [List.cons_append, languageTag?, if_pos hc, htake, hdrop]
  refine ofText_first (by decide) ?_
  rw [first, if_neg (by decide), if_pos rfl, closeQuote?_append hbody]
  dsimp only
  rw [closeLiteral, hlanguage]

/-- A lone dot is a word of its own. -/
theorem ofText_stop {gap : List Char} (h : IsMargin gap) : ofText (gap ++ ['.']) = [bare ['.']] := by
  have hfirst : first '.' [] = (bare ['.'], []) := by decide
  rw [ofText_margin h, ofText_first (by decide) hfirst, ofText_nil]

end Token

/-! ### Pieces of a statement -/

/-- A piece of a statement, as it is written. -/
inductive Piece where
  | iri (inside : List Char)
  | word (word : List Char)
  /-- A literal with a language tag, its escapes as written. -/
  | tagged (body tag : List Char)
  deriving DecidableEq, Repr

namespace Piece

def text : Piece → List Char
  | iri inside => '<' :: (inside ++ ['>'])
  | word cs => cs
  | tagged body tag => '"' :: (body ++ '"' :: '@' :: tag)

/-- The token that a piece is read as. -/
def token : Piece → Token
  | iri inside => .iri inside
  | word cs => .bare cs
  | tagged body tag => .literal body (some tag)

/-- Whether a piece is written as it should be. -/
def isWellFormed : Piece → Bool
  | iri inside => !inside.contains '>'
  | word [] => false
  | word (c :: cs) => c != '<' && c != '"' && (c :: cs).all (!isBlank ·)
  | tagged body tag => Token.isBody body && Token.isTag tag

/-- Whether a piece ends where the rest of the line begins. -/
def endsBefore : Piece → List Char → Bool
  | iri _, _ => true
  | word _, rest => rest.head?.all isBlank
  | tagged _ _, rest => rest.head?.all (!Token.isTagChar ·)

variable {p : Piece} {rest : List Char}

/-- **A piece is read as its token**, and what follows it is read on its own. -/
theorem ofText_append (h : p.isWellFormed = true) (hrest : p.endsBefore rest = true) :
    Token.ofText (p.text ++ rest) = p.token :: Token.ofText rest := by
  cases p with
  | iri inside =>
    rw [text, List.cons_append, List.append_assoc]
    exact Token.ofText_iri (by simpa [isWellFormed] using h) rest
  | word cs =>
    cases cs with
    | nil => cases h
    | cons c cs =>
      obtain ⟨⟨hbracket, hquote⟩, hword⟩ :
          (c ≠ '<' ∧ c ≠ '"') ∧ ∀ x ∈ c :: cs, isBlank x = false := by
        simpa [isWellFormed] using h
      exact Token.ofText_word hbracket hquote hword hrest
  | tagged body tag =>
    obtain ⟨hbody, htag⟩ := Bool.and_eq_true_iff.mp h
    simp only [text, List.cons_append, List.append_assoc]
    exact Token.ofText_tagged hbody htag hrest

/-- Where a piece ends is told by what comes next. -/
theorem endsBefore_append (h : p.endsBefore rest = true) (hrest : rest ≠ []) (more : List Char) :
    p.endsBefore (rest ++ more) = true := by
  have hhead : (rest ++ more).head? = rest.head? := by
    cases rest with
    | nil => exact absurd rfl hrest
    | cons c cs => rfl
  cases p with
  | iri inside => rfl
  | word cs => rwa [endsBefore, hhead]
  | tagged body tag => rwa [endsBefore, hhead]

/-- A piece opens with a character that is not blank. -/
theorem exists_first (h : p.isWellFormed = true) :
    ∃ c cs, p.text = c :: cs ∧ isBlank c = false := by
  cases p with
  | iri inside => exact ⟨'<', _, rfl, by decide⟩
  | word cs =>
    cases cs with
    | nil => cases h
    | cons c cs =>
      have hc : isBlank c = false := by
        simp only [isWellFormed, List.all_cons, Bool.and_eq_true, Bool.not_eq_true'] at h
        exact h.2.1
      exact ⟨c, cs, rfl, hc⟩
  | tagged body tag => exact ⟨'"', _, rfl, by decide⟩

theorem text_ne_nil (h : p.isWellFormed = true) : p.text ≠ [] := by
  obtain ⟨c, cs, htext, _⟩ := exists_first h
  rw [htext]
  exact List.cons_ne_nil c cs

/-- A piece ends with a character that is not blank. -/
theorem not_isBlank_getLast? (h : p.isWellFormed = true) :
    ∀ c ∈ p.text.getLast?, isBlank c = false := by
  intro c hc
  cases p with
  | iri inside =>
    rw [text, ← List.cons_append, List.getLast?_concat] at hc
    cases hc
    decide
  | word cs =>
    have hall : ∀ x ∈ cs, isBlank x = false := by
      cases cs with
      | nil => cases h
      | cons d ds =>
        simp only [isWellFormed, List.all_eq_true, Bool.and_eq_true, Bool.not_eq_true'] at h
        exact h.2
    exact hall c (List.mem_of_getLast? hc)
  | tagged body tag =>
    have htag : Token.isTag tag = true := (Bool.and_eq_true_iff.mp h).2
    have hlast : (text (tagged body tag)).getLast? = tag.getLast? := by
      have hsplit : text (tagged body tag) = ('"' :: (body ++ ['"', '@'])) ++ tag := by
        simp [text]
      rw [hsplit, List.getLast?_append_of_ne_nil _ (Token.ne_nil_of_isTag htag)]
    rw [hlast] at hc
    exact Token.isBlank_of_isTagChar (Token.isTagChar_of_mem htag (List.mem_of_getLast? hc))

end Piece

/-! ### Texts of literals -/

/-- A text as it stands in a literal, with a backslash before each quote. -/
def escapeQuotes : List Char → List Char
  | [] => []
  | '"' :: cs => '\\' :: '"' :: escapeQuotes cs
  | c :: cs => c :: escapeQuotes cs

variable {text : List Char}

theorem isBody_escapeQuotes (h : '\\' ∉ text) : Token.isBody (escapeQuotes text) = true := by
  fun_induction escapeQuotes text with
  | case1 => rfl
  | case2 cs ih =>
    have hcs := ih fun hmem => h (List.mem_cons_of_mem _ hmem)
    rw [Token.isBody, hcs]
    rfl
  | case3 c cs hquote ih =>
    have hc : c ≠ '\\' := fun heq => h (heq ▸ List.mem_cons_self)
    rw [Token.isBody]
    · exact ih fun hmem => h (List.mem_cons_of_mem _ hmem)
    · exact hquote
    · exact fun heq => absurd heq hc
    · exact fun _ _ heq => absurd heq hc

/-- **A text is read as it was written**, if no backslash is in it. -/
theorem unescapeQuotes_escapeQuotes (h : '\\' ∉ text) :
    unescapeQuotes (escapeQuotes text) = text := by
  fun_induction escapeQuotes text with
  | case1 => rfl
  | case2 cs ih =>
    rw [unescapeQuotes, ih fun hmem => h (List.mem_cons_of_mem _ hmem)]
  | case3 c cs hquote ih =>
    have hc : c ≠ '\\' := fun heq => h (heq ▸ List.mem_cons_self)
    rw [unescapeQuotes, ih fun hmem => h (List.mem_cons_of_mem _ hmem)]
    exact fun _ heq => absurd heq hc

/-- A part that ends in no dot has none taken off. -/
theorem dropStop_eq_self {part : List Char} (h : part.getLast? ≠ some '.') :
    dropStop part = part := by
  rw [← List.head?_reverse] at h
  unfold dropStop
  split
  · rfl
  · rename_i heq
    rw [heq] at h
    exact absurd rfl h
  · rfl

/-- A literal with a language tag contributes its text and its tag, and the tag ends in no dot. -/
theorem dropStop_part_tagged {body tag : List Char} (htag : Token.isTag tag = true) :
    dropStop (Piece.tagged body tag).token.part =
      trimmed (unescapeQuotes body) ++ ' ' :: '@' :: tag := by
  have hsplit : (Piece.tagged body tag).token.part =
      (trimmed (unescapeQuotes body) ++ [' ', '@']) ++ tag :=
    (List.append_assoc _ [' ', '@'] tag).symm
  rw [dropStop_eq_self, hsplit, List.append_assoc]
  · rfl
  · rw [hsplit, List.getLast?_append_of_ne_nil _ (Token.ne_nil_of_isTag htag)]
    exact fun hdot => Token.notMem_of_isTag htag (by decide) (List.mem_of_getLast? hdot)

/-! ### The triple of a line -/

section Parts

variable {cap : Nat} {line : String} {t : Triple} {subject predicate part : List Char}
  {rest : List (List Char)}

/-- The triple that parts of a line make up. -/
def tripleOf (cap : Nat) (subject predicate : List Char) (object : List (List Char)) : Triple :=
  let predicate := String.ofList predicate
  let object := String.ofList (joinUpTo cap [] (dropFinalStop object))
  { subject := String.ofList subject
    predicate
    object := if predicate = Field.type then reduceType object else object }

theorem object_tripleOf (cap : Nat) (subject predicate : List Char) (object : List (List Char)) :
    (tripleOf cap subject predicate object).object =
      if String.ofList predicate = Field.type then
        reduceType (String.ofList (joinUpTo cap [] (dropFinalStop object)))
      else String.ofList (joinUpTo cap [] (dropFinalStop object)) := rfl

/-- **A line gives the triple of its parts**, if it is no comment and there are three of them. -/
theorem scan_of_parts (hopens : (trimmed line.toList).head? ≠ some '#')
    (hparts : partsOf (trimmed line.toList) = subject :: predicate :: part :: rest) :
    scan cap line = some (tripleOf cap subject predicate (part :: rest)) := by
  unfold scan
  split
  · rename_i hnil
    rw [hnil, partsOf, Token.ofText_nil] at hparts
    cases hparts
  · rename_i hcomment
    rw [hcomment] at hopens
    exact absurd rfl hopens
  · rw [hparts]
    rfl

/-- With fewer parts than three it gives none. -/
theorem scan_of_few (h : (partsOf (trimmed line.toList)).length < 3) : scan cap line = none := by
  unfold scan
  split
  · rfl
  · rfl
  · split
    · rename_i hparts
      rw [hparts] at h
      simp at h
      omega
    · rfl

/-- **Which lines give a triple**: those that are no comment and have three parts or more. -/
theorem scan_eq_some_iff : scan cap line = some t ↔
    (trimmed line.toList).head? ≠ some '#' ∧ ∃ subject predicate part rest,
      partsOf (trimmed line.toList) = subject :: predicate :: part :: rest ∧
      t = tripleOf cap subject predicate (part :: rest) := by
  constructor
  · intro h
    have hopens : (trimmed line.toList).head? ≠ some '#' := by
      intro hcomment
      obtain ⟨cs, hline⟩ := List.head?_eq_some_iff.mp hcomment
      simp [scan, hline] at h
    refine ⟨hopens, ?_⟩
    match hparts : partsOf (trimmed line.toList) with
    | subject :: predicate :: part :: rest =>
      rw [scan_of_parts hopens hparts] at h
      exact ⟨subject, predicate, part, rest, rfl, (Option.some.inj h).symm⟩
    | [] | [_] | [_, _] =>
      rw [scan_of_few (by simp [hparts])] at h
      cases h
  · rintro ⟨hopens, subject, predicate, part, rest, hparts, rfl⟩
    exact scan_of_parts hopens hparts

/-- One part is never cut off. -/
theorem joinUpTo_singleton (hcap : 0 < cap) (part : List Char) : joinUpTo cap [] [part] = part := by
  simp [joinUpTo, byteLength, Nat.not_le.mpr hcap]

end Parts

/-! ### Statements -/

/-- **A statement**, as it is written on a line. -/
structure Statement where
  lead : List Char
  subject : Piece
  afterSubject : List Char
  predicate : Piece
  afterPredicate : List Char
  object : Piece
  /-- The gap before the dot that ends the statement, if there is one. -/
  stop : Option (List Char)
  trail : List Char
  lead_isMargin : IsMargin lead
  subject_isWellFormed : subject.isWellFormed = true
  /-- A line that opens with `#` is a comment. -/
  subject_opens : subject.text.head? ≠ some '#'
  afterSubject_isMargin : IsMargin afterSubject
  subject_ends : subject.endsBefore (afterSubject ++ predicate.text) = true
  predicate_isWellFormed : predicate.isWellFormed = true
  afterPredicate_isMargin : IsMargin afterPredicate
  predicate_ends : predicate.endsBefore (afterPredicate ++ object.text) = true
  object_isWellFormed : object.isWellFormed = true
  stop_isMargin : ∀ gap ∈ stop, IsMargin gap
  object_ends : object.endsBefore (stop.elim [] (· ++ ['.'])) = true
  trail_isMargin : IsMargin trail

namespace Statement

variable (s : Statement)

/-- What follows the object. -/
def ending : List Char := s.stop.elim [] (· ++ ['.'])

/-- The object and what follows it. -/
def fromObject : List Char := s.object.text ++ s.ending

/-- The predicate and what follows it. -/
def fromPredicate : List Char := s.predicate.text ++ (s.afterPredicate ++ s.fromObject)

/-- The line without its margins. -/
def core : List Char := s.subject.text ++ (s.afterSubject ++ s.fromPredicate)

/-- The line. -/
def line : String := String.ofList (s.lead ++ s.core ++ s.trail)

/-- What a piece contributes to the triple. -/
def parts : List (List Char) :=
  [s.subject.token.part, s.predicate.token.part, s.object.token.part]

/-- The triple that the pieces make up. -/
def triple : Triple :=
  let predicate := String.ofList s.predicate.token.part
  let object := String.ofList (dropStop s.object.token.part)
  { subject := String.ofList s.subject.token.part
    predicate
    object := if predicate = Field.type then reduceType object else object }

variable {s}

/-- The dot contributes nothing. -/
theorem part_ending (s : Statement) :
    ((Token.ofText s.ending).map Token.part).filter (!·.isEmpty) = [] := by
  unfold ending
  cases hstop : s.stop with
  | none => rw [Option.elim_none, Token.ofText_nil]; rfl
  | some gap =>
    rw [Option.elim_some, Token.ofText_stop (s.stop_isMargin gap hstop)]
    rfl

theorem partsOf_core (s : Statement) : partsOf s.core = s.parts.filter (!·.isEmpty) := by
  have hpredicate : s.subject.endsBefore (s.afterSubject ++ s.fromPredicate) = true := by
    have := Piece.endsBefore_append s.subject_ends
      (by simp [Piece.text_ne_nil s.predicate_isWellFormed]) (s.afterPredicate ++ s.fromObject)
    rwa [List.append_assoc] at this
  have hobject : s.predicate.endsBefore (s.afterPredicate ++ s.fromObject) = true := by
    have := Piece.endsBefore_append s.predicate_ends
      (by simp [Piece.text_ne_nil s.object_isWellFormed]) s.ending
    rwa [List.append_assoc] at this
  have hending : s.object.endsBefore s.ending = true := s.object_ends
  have htokens : Token.ofText s.core = s.subject.token :: s.predicate.token :: s.object.token ::
      Token.ofText s.ending := by
    rw [core, Piece.ofText_append s.subject_isWellFormed hpredicate,
      Token.ofText_margin s.afterSubject_isMargin, fromPredicate,
      Piece.ofText_append s.predicate_isWellFormed hobject,
      Token.ofText_margin s.afterPredicate_isMargin, fromObject,
      Piece.ofText_append s.object_isWellFormed hending]
  have hnothing := s.part_ending
  unfold partsOf parts
  rw [htokens]
  simp only [List.map_cons, List.filter_cons, hnothing, List.filter_nil]

/-- The line without its margins opens with no blank and no `#`. -/
theorem exists_first (s : Statement) :
    ∃ c cs, s.core = c :: cs ∧ isBlank c = false ∧ c ≠ '#' := by
  obtain ⟨c, cs, htext, hc⟩ := Piece.exists_first s.subject_isWellFormed
  refine ⟨c, cs ++ (s.afterSubject ++ s.fromPredicate), ?_, hc, ?_⟩
  · rw [core, htext, List.cons_append]
  · rintro rfl
    exact s.subject_opens (congrArg List.head? htext)

theorem not_isBlank_getLast? (s : Statement) : ∀ c ∈ s.core.getLast?, isBlank c = false := by
  have hne : s.fromObject ≠ [] := by
    unfold fromObject
    simp [Piece.text_ne_nil s.object_isWellFormed]
  have hsplit : s.core = (s.subject.text ++ s.afterSubject ++ s.predicate.text ++
      s.afterPredicate) ++ s.fromObject := by
    simp only [core, fromPredicate, List.append_assoc]
  intro c hc
  rw [hsplit, List.getLast?_append_of_ne_nil _ hne, fromObject, ending] at hc
  cases hstop : s.stop with
  | none =>
    rw [hstop, Option.elim_none, List.append_nil] at hc
    exact Piece.not_isBlank_getLast? s.object_isWellFormed c hc
  | some gap =>
    rw [hstop, Option.elim_some, ← List.append_assoc, List.getLast?_concat] at hc
    cases hc
    decide

theorem trimmed_line (s : Statement) : trimmed s.line.toList = s.core := by
  obtain ⟨c, cs, hcore, hc, _⟩ := s.exists_first
  have hfirst : ∀ c ∈ s.core.head?, isBlank c = false := by
    intro d hd
    rw [hcore] at hd
    cases hd
    exact hc
  rw [line, String.toList_ofList, trimmed_append s.lead_isMargin s.trail_isMargin,
    trimmed_eq_self hfirst s.not_isBlank_getLast?]

theorem head?_trimmed_line (s : Statement) : (trimmed s.line.toList).head? ≠ some '#' := by
  obtain ⟨c, cs, hcore, _, hc⟩ := s.exists_first
  rw [s.trimmed_line, hcore]
  exact fun h => hc (Option.some.inj h)

/-- **A statement is read as it was written**: its line gives the triple of its pieces, unless one
of them contributes nothing. -/
theorem scan_line (s : Statement) {cap : Nat} (hcap : 0 < cap) :
    scan cap s.line = if [] ∈ s.parts then none else some s.triple := by
  have hparts : partsOf (trimmed s.line.toList) = s.parts.filter (!·.isEmpty) := by
    rw [s.trimmed_line, s.partsOf_core]
  -- parts that are empty do not count, so one of them leaves too few
  by_cases hnil : [] ∈ s.parts
  · rw [if_pos hnil]
    refine scan_of_few ?_
    rw [hparts]
    exact List.length_filter_lt_length_iff_exists.mpr ⟨[], hnil, by simp⟩
  · have hall : s.parts.filter (!·.isEmpty) = s.parts := by
      refine List.filter_eq_self.mpr fun part hpart => ?_
      cases part with
      | nil => exact absurd hpart hnil
      | cons c cs => rfl
    rw [if_neg hnil, scan_of_parts s.head?_trimmed_line (hparts.trans hall)]
    simp only [tripleOf, dropFinalStop, joinUpTo_singleton hcap]
    rfl

end Statement

end GraphAnswers.Dump
