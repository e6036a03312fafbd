import GraphAnswers.Proofs.Statement
import GraphAnswers.Proofs.Wording
/-!
# Triples come back from what is written

Of an IRI only the local name is kept, and of a tagged literal the text without its margins, and the
tag.  So a triple that is written with IRIs for its subject and its predicate, and with either for
its object, is read as its names (`Dump.scan_written`): whatever stands in front of the names in the
IRIs, whatever the text of the literal is made of, and however much is left blank in the line.

Three things are excluded, for each of them is read as something else.  A backslash in a text could
escape what follows it; the name of a type is reduced to its last two words; and a dot at the end of
an object is taken for the one that ends the statement.
-/
namespace GraphAnswers

open Text

/-! ### What follows the last separator -/

namespace Text

variable {α : Type} {p : α → Bool}

theorem afterLast_of_none {cs : List α} (h : ∀ c ∈ cs, p c = false) : afterLast p cs = cs := by
  unfold afterLast
  rw [splitWhere_of_none h]
  rfl

theorem afterLast_append {before after : List α} (hbefore : ∀ a ∈ before.getLast?, p a = true)
    (hafter : ∀ c ∈ after, p c = false) : afterLast p (before ++ after) = after := by
  rcases List.eq_nil_or_concat before with rfl | ⟨front, a, rfl⟩
  · exact afterLast_of_none hafter
  · have ha : p a = true := hbefore a (by simp)
    rw [List.concat_append]
    unfold afterLast
    rw [splitWhere_separator ha, splitWhere_of_none hafter]
    simp

end Text

namespace Dump

/-! ### IRIs and literals -/

/-- Whether a character separates a local name from what stands in front of it. -/
def isSeparator (c : Char) : Bool := c == '/' || c == '#'

/-- **An IRI**: a local name, and what stands in front of it. -/
structure Iri where
  base : List Char
  name : List Char
  base_closed : '>' ∉ base
  base_ends : ∀ c ∈ base.getLast?, isSeparator c = true
  name_ne_nil : name ≠ []
  name_closed : '>' ∉ name
  name_local : ∀ c ∈ name, isSeparator c = false

namespace Iri

/-- An IRI as it stands in a line. -/
def text (i : Iri) : List Char := '<' :: (i.base ++ i.name ++ ['>'])

def piece (i : Iri) : Piece := .iri (i.base ++ i.name)

theorem text_piece (i : Iri) : i.piece.text = i.text := rfl

theorem isWellFormed_piece (i : Iri) : i.piece.isWellFormed = true := by
  have hclosed : '>' ∉ i.base ++ i.name := by
    rw [List.mem_append]
    exact not_or.mpr ⟨i.base_closed, i.name_closed⟩
  simpa [piece, Piece.isWellFormed] using hclosed

/-- Of an IRI the local name is kept. -/
theorem part_piece (i : Iri) : i.piece.token.part = i.name :=
  afterLast_append i.base_ends i.name_local

end Iri

/-- **A text with a language tag.** -/
structure Literal where
  text : List Char
  tag : List Char
  text_plain : '\\' ∉ text
  tag_isTag : Token.isTag tag = true

/-- What the object of a triple is written as. -/
inductive Term where
  | iri (iri : Iri)
  | literal (literal : Literal)

namespace Term

/-- An object as it stands in a line.  The quotes of a text are escaped. -/
def text : Term → List Char
  | iri i => i.text
  | literal l => '"' :: (escapeQuotes l.text ++ '"' :: '@' :: l.tag)

def piece : Term → Piece
  | iri i => i.piece
  | literal l => .tagged (escapeQuotes l.text) l.tag

/-- What an object is read as. -/
def value : Term → List Char
  | iri i => i.name
  | literal l => trimmed l.text ++ ' ' :: '@' :: l.tag

theorem text_piece (o : Term) : o.piece.text = o.text := by
  cases o with
  | iri i => rfl
  | literal l => rfl

theorem isWellFormed_piece (o : Term) : o.piece.isWellFormed = true := by
  cases o with
  | iri i => exact i.isWellFormed_piece
  | literal l => exact Bool.and_eq_true_iff.mpr ⟨isBody_escapeQuotes l.text_plain, l.tag_isTag⟩

theorem part_piece (o : Term) : o.piece.token.part = o.value := by
  cases o with
  | iri i => exact i.part_piece
  | literal l =>
    show trimmed (unescapeQuotes (escapeQuotes l.text)) ++ ' ' :: '@' :: l.tag = _
    rw [unescapeQuotes_escapeQuotes l.text_plain]
    rfl

theorem value_ne_nil (o : Term) : o.value ≠ [] := by
  cases o with
  | iri i => exact i.name_ne_nil
  | literal l => exact List.append_ne_nil_of_right_ne_nil _ (List.cons_ne_nil _ _)

/-- A tag ends in no dot, so an object can end in one only if it is a name. -/
theorem dropStop_value {o : Term} (h : ∀ i, o = iri i → i.name.getLast? ≠ some '.') :
    dropStop o.value = o.value := by
  cases o with
  | iri i => exact dropStop_eq_self (h i rfl)
  | literal l =>
    rw [← part_piece (literal l)]
    exact dropStop_part_tagged l.tag_isTag

/-- Whatever comes next in a line ends an object, unless it could belong to a tag. -/
theorem endsBefore_piece (o : Term) {rest : List Char}
    (h : rest.head?.all (!Token.isTagChar ·) = true) : o.piece.endsBefore rest = true := by
  cases o with
  | iri i => rfl
  | literal l => exact h

end Term

/-! ### Lines -/

/-- **What is left blank** in a line: any amount at each place, or nothing. -/
structure Spacing where
  lead : List Char := []
  afterSubject : List Char := []
  afterPredicate : List Char := []
  beforeStop : List Char := []
  trail : List Char := []
  lead_isMargin : IsMargin lead := by decide
  afterSubject_isMargin : IsMargin afterSubject := by decide
  afterPredicate_isMargin : IsMargin afterPredicate := by decide
  beforeStop_isMargin : IsMargin beforeStop := by decide
  trail_isMargin : IsMargin trail := by decide

/-- The line in which a triple is written. -/
def written (g : Spacing) (subject predicate : Iri) (object : Term) : String :=
  String.ofList (g.lead ++ subject.text ++ g.afterSubject ++ predicate.text ++ g.afterPredicate ++
    object.text ++ g.beforeStop ++ '.' :: g.trail)

/-- An object is followed by a blank or by the dot. -/
theorem Spacing.blank_or_stop (g : Spacing) :
    ∀ c ∈ (g.beforeStop ++ ['.']).head?, isBlank c = true ∨ c = '.' := by
  have hmargin := g.beforeStop_isMargin
  intro c hc
  cases hgap : g.beforeStop with
  | nil =>
    rw [hgap] at hc
    cases hc
    exact .inr rfl
  | cons b gap =>
    rw [hgap] at hc hmargin
    cases hc
    exact .inl (hmargin _ List.mem_cons_self)

/-- What stands between an object and the dot does not belong to a tag, and neither does the dot. -/
theorem Spacing.head?_beforeStop (g : Spacing) :
    (g.beforeStop ++ ['.']).head?.all (!Token.isTagChar ·) = true := by
  rw [Option.all_eq_true]
  intro c hc
  rw [Bool.not_eq_true', ← Bool.not_eq_true]
  intro htag
  rcases g.blank_or_stop c hc with hblank | rfl
  · rw [Token.isBlank_of_isTagChar htag] at hblank
    cases hblank
  · exact absurd htag (by decide)

/-- The statement that is written. -/
def Statement.ofTerms (g : Spacing) (subject predicate : Iri) (object : Term) : Statement where
  lead := g.lead
  subject := subject.piece
  afterSubject := g.afterSubject
  predicate := predicate.piece
  afterPredicate := g.afterPredicate
  object := object.piece
  stop := some g.beforeStop
  trail := g.trail
  lead_isMargin := g.lead_isMargin
  subject_isWellFormed := subject.isWellFormed_piece
  subject_opens := by
    rw [Iri.piece, Piece.text, List.head?_cons]
    decide
  afterSubject_isMargin := g.afterSubject_isMargin
  subject_ends := rfl
  predicate_isWellFormed := predicate.isWellFormed_piece
  afterPredicate_isMargin := g.afterPredicate_isMargin
  predicate_ends := rfl
  object_isWellFormed := object.isWellFormed_piece
  stop_isMargin := by
    intro gap hgap
    cases hgap
    exact g.beforeStop_isMargin
  object_ends := object.endsBefore_piece g.head?_beforeStop
  trail_isMargin := g.trail_isMargin

namespace Statement

variable (g : Spacing) (subject predicate : Iri) (object : Term)

theorem line_ofTerms : (ofTerms g subject predicate object).line =
    written g subject predicate object := by
  unfold line core fromPredicate fromObject ending ofTerms written
  dsimp only
  rw [subject.text_piece, predicate.text_piece, object.text_piece]
  simp only [Option.elim_some, List.append_assoc, List.singleton_append]

theorem parts_ofTerms : (ofTerms g subject predicate object).parts =
    [subject.name, predicate.name, object.value] := by
  show [subject.piece.token.part, predicate.piece.token.part, object.piece.token.part] = _
  rw [subject.part_piece, predicate.part_piece, object.part_piece]

end Statement

/-- **A triple is read as it was written**: as the local names of its IRIs, and as the text of its
literal and the tag. -/
theorem scan_written (g : Spacing) (subject predicate : Iri) (object : Term) {cap : Nat}
    (hcap : 1 ≤ cap) (htype : predicate.name ≠ Field.type.toList)
    (hstop : ∀ i, object = .iri i → i.name.getLast? ≠ some '.') :
    scan cap (written g subject predicate object) = some {
      subject := String.ofList subject.name
      predicate := String.ofList predicate.name
      object := String.ofList object.value } := by
  have hparts := Statement.parts_ofTerms g subject predicate object
  have hall : [] ∉ (Statement.ofTerms g subject predicate object).parts := by
    rw [hparts]
    simp [subject.name_ne_nil.symm, predicate.name_ne_nil.symm, object.value_ne_nil.symm]
  have hpredicate : String.ofList predicate.name ≠ Field.type := by
    intro heq
    apply htype
    rw [← heq, String.toList_ofList]
  have hscan := (Statement.ofTerms g subject predicate object).scan_line hcap
  rw [Statement.line_ofTerms, if_neg hall] at hscan
  rw [hscan]
  obtain ⟨hs, hp, ho⟩ : subject.piece.token.part = subject.name ∧
      predicate.piece.token.part = predicate.name ∧ object.piece.token.part = object.value :=
    ⟨subject.part_piece, predicate.part_piece, object.part_piece⟩
  show some (Triple.mk (String.ofList subject.piece.token.part)
    (String.ofList predicate.piece.token.part)
    (if String.ofList predicate.piece.token.part = Field.type then
      reduceType (String.ofList (dropStop object.piece.token.part))
    else String.ofList (dropStop object.piece.token.part))) = _
  rw [hs, hp, ho, if_neg hpredicate, Term.dropStop_value hstop]

/-! ### A line with much in it -/

/-- A film. -/
def film : Iri where
  base := "http://a.b/".toList
  name := "m.1".toList
  base_closed := by decide
  base_ends := by simp [isSeparator]
  name_ne_nil := by decide
  name_closed := by decide
  name_local := by simp [isSeparator]

/-- The predicate for labels. -/
def labelled : Iri where
  base := "x#".toList
  name := "label".toList
  base_closed := by decide
  base_ends := by simp [isSeparator]
  name_ne_nil := by decide
  name_closed := by decide
  name_local := by simp [isSeparator]

/-- A text with quotes in it, and with what looks like an IRI and like the end of a statement. -/
def title : Literal where
  text := " \"Jaws\"@en <m.2>  #1 . ".toList
  tag := "pt-BR".toList
  text_plain := by decide
  tag_isTag := by decide

theorem scan_title :
    scan 1 "\t<http://a.b/m.1><x#label>   \" \\\"Jaws\\\"@en <m.2>  #1 . \"@pt-BR. " =
      some ⟨"m.1", "label", "\"Jaws\"@en <m.2>  #1 . @pt-BR"⟩ := by
  have hscan := scan_written
    { lead := ['\t'], afterPredicate := [' ', ' ', ' '], trail := [' '] } film labelled
    (.literal title) (Nat.le_refl 1) (by decide) (by rintro i hi; cases hi)
  exact hscan

end Dump

end GraphAnswers
