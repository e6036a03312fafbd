import GraphAnswers.Proofs.WrittenTriples
/-!
# Texts without a language tag

A text in double quotes that has no language tag, with a datatype or without one, is read as the text
without its margins.  One character of it may be lost: the dot that ends the statement contributes
nothing, and yet a dot is taken off the last part of the line, which is the text then
(`Dump.scan_untagged`).  A tag at the end of a text protects it from that.
-/
namespace GraphAnswers.Dump

open GraphAnswers.Text

/-! ### The dot at the end of a part -/

/-- Whether a part ends in what can be taken for the dot of a statement: a single dot, and something
in front of it. -/
def EndsInStop (part : List Char) : Prop :=
  ∃ front, front ≠ [] ∧ front.getLast? ≠ some '.' ∧ part = front ++ ['.']

theorem dropStop_concat {front : List Char} (hne : front ≠ []) (hlast : front.getLast? ≠ some '.') :
    dropStop (front ++ ['.']) = front := by
  have hreverse : (front ++ ['.']).reverse = '.' :: front.reverse := by simp
  rw [← List.head?_reverse] at hlast
  unfold dropStop
  rw [hreverse]
  split
  · rename_i heq
    rw [(List.cons.inj heq).2] at hlast
    exact absurd rfl hlast
  · rename_i heq
    rw [← (List.cons.inj heq).2]
    simp [hne]
  · rename_i hnot
    exact absurd rfl (hnot _)

/-- **A part is left as it is unless it ends in such a dot.** -/
theorem dropStop_eq_self_iff {part : List Char} : dropStop part = part ↔ ¬EndsInStop part := by
  constructor
  · rintro hsame ⟨front, hne, hlast, rfl⟩
    rw [dropStop_concat hne hlast] at hsame
    have := congrArg List.length hsame
    simp at this
  · intro hnot
    rcases List.eq_nil_or_concat' part with rfl | ⟨front, last, rfl⟩
    · rfl
    by_cases hdot : last = '.'
    · subst hdot
      by_cases hne : front = []
      · subst hne
        rfl
      · -- a dot in front of the dot: this is no end of a statement
        have hlast : front.getLast? = some '.' := by
          by_contra hlast
          exact hnot ⟨front, hne, hlast, rfl⟩
        obtain ⟨before, rfl⟩ := List.getLast?_eq_some_iff.mp hlast
        unfold dropStop
        simp
    · exact dropStop_eq_self (by simpa using hdot)

/-! ### Literals without a tag -/

namespace Token

variable {body rest : List Char}

theorem ofText_untagged (hbody : isBody body = true) (hrest : ∀ c ∈ rest.head?, c ≠ '@' ∧ c ≠ '^') :
    ofText ('"' :: (body ++ '"' :: rest)) = literal body none :: ofText rest := by
  have hlanguage : languageTag? rest = none := by
    unfold languageTag?
    split
    · exact absurd rfl (hrest _ rfl).1
    · rfl
  have hdatatype : afterDatatype? rest = none := by
    unfold afterDatatype?
    split
    · exact absurd rfl (hrest _ rfl).2
    · rfl
  refine ofText_first (by decide) ?_
  rw [first, if_neg (by decide), if_pos rfl, closeQuote?_append hbody]
  dsimp only
  rw [closeLiteral, hlanguage, hdatatype]
  rfl

/-- A datatype belongs to the literal and is not kept. -/
theorem ofText_typed {datatype : List Char} (hbody : isBody body = true) (hclosed : '>' ∉ datatype)
    (rest : List Char) :
    ofText ('"' :: (body ++ '"' :: '^' :: '^' :: '<' :: (datatype ++ '>' :: rest))) =
      literal body none :: ofText rest := by
  refine ofText_first (by decide) ?_
  rw [first, if_neg (by decide), if_pos rfl, closeQuote?_append hbody]
  dsimp only
  rw [closeLiteral, languageTag?, afterDatatype?, cutAt?_append hclosed]
  · rfl
  · simp

end Token

/-- **A text without a language tag**, and its datatype if it has one. -/
structure Untagged where
  text : List Char
  datatype : Option (List Char)
  text_plain : '\\' ∉ text
  /-- The text is not blank. -/
  text_shows : ¬IsMargin text
  datatype_closed : ∀ d ∈ datatype, '>' ∉ d

namespace Untagged

/-- A text as it stands in a line.  Its quotes are escaped. -/
def written (o : Untagged) : List Char :=
  '"' :: (escapeQuotes o.text ++ '"' :: o.datatype.elim [] fun d => '^' :: '^' :: '<' :: (d ++ ['>']))

/-- It is read as one token, which does not tell the datatype. -/
theorem ofText_written (o : Untagged) {rest : List Char}
    (hrest : ∀ c ∈ rest.head?, c ≠ '@' ∧ c ≠ '^') :
    Token.ofText (o.written ++ rest) = .literal (escapeQuotes o.text) none :: Token.ofText rest := by
  have hbody := isBody_escapeQuotes o.text_plain
  unfold written
  cases hdatatype : o.datatype with
  | none =>
    rw [Option.elim_none, List.cons_append, List.append_assoc]
    exact Token.ofText_untagged hbody hrest
  | some d =>
    rw [Option.elim_some]
    simp only [List.cons_append, List.append_assoc, List.nil_append]
    exact Token.ofText_typed hbody (o.datatype_closed d hdatatype) rest

theorem part_token (o : Untagged) :
    (Token.literal (escapeQuotes o.text) none).part = trimmed o.text := by
  rw [Token.part, unescapeQuotes_escapeQuotes o.text_plain]

theorem trimmed_ne_nil (o : Untagged) : trimmed o.text ≠ [] :=
  fun hnil => o.text_shows (trimmed_eq_nil_iff.mp hnil)

end Untagged

/-! ### Lines -/

/-- The line with two IRIs, given by what stands between their brackets, and a text. -/
def writtenText (g : Spacing) (subject predicate : List Char) (object : Untagged) : String :=
  String.ofList (g.lead ++ '<' :: (subject ++ ['>']) ++ g.afterSubject ++ '<' :: (predicate ++ ['>'])
    ++ g.afterPredicate ++ object.written ++ g.beforeStop ++ '.' :: g.trail)

section Lines

variable (g : Spacing) {subject predicate : List Char} (object : Untagged) {cap : Nat}

/-- The line without its margins. -/
def coreOf (g : Spacing) (subject predicate : List Char) (object : Untagged) : List Char :=
  '<' :: (subject ++ '>' :: (g.afterSubject ++ '<' :: (predicate ++ '>' :: (g.afterPredicate ++
    (object.written ++ (g.beforeStop ++ ['.']))))))

theorem trimmed_writtenText (subject predicate : List Char) :
    trimmed (writtenText g subject predicate object).toList = coreOf g subject predicate object := by
  have hline : (writtenText g subject predicate object).toList =
      g.lead ++ coreOf g subject predicate object ++ g.trail := by
    simp [writtenText, coreOf]
  have hlast : (coreOf g subject predicate object).getLast? = some '.' := by
    simp [coreOf, List.getLast?_cons, List.getLast?_append]
  rw [hline, trimmed_append g.lead_isMargin g.trail_isMargin]
  refine trimmed_eq_self (fun c hc => ?_) fun c hc => ?_
  · cases hc
    decide
  · rw [hlast] at hc
    cases hc
    decide

/-- What stands between a text and the dot goes on neither with a tag nor with a datatype. -/
theorem head?_beforeStop_ne (g : Spacing) :
    ∀ c ∈ (g.beforeStop ++ ['.']).head?, c ≠ '@' ∧ c ≠ '^' := by
  intro c hc
  rcases g.blank_or_stop c hc with hblank | rfl
  · constructor
    · rintro rfl
      exact absurd hblank (by decide)
    · rintro rfl
      exact absurd hblank (by decide)
  · decide

theorem partsOf_coreOf (hsubject : '>' ∉ subject) (hpredicate : '>' ∉ predicate) :
    partsOf (coreOf g subject predicate object) =
      [localName subject, localName predicate, trimmed object.text].filter (!·.isEmpty) := by
  have htokens : Token.ofText (coreOf g subject predicate object) =
      [.iri subject, .iri predicate, .literal (escapeQuotes object.text) none, .bare ['.']] := by
    rw [coreOf, Token.ofText_iri hsubject, Token.ofText_margin g.afterSubject_isMargin,
      Token.ofText_iri hpredicate, Token.ofText_margin g.afterPredicate_isMargin,
      object.ofText_written (head?_beforeStop_ne g), Token.ofText_stop g.beforeStop_isMargin]
  have hdot : (Token.bare ['.']).part = [] := rfl
  unfold partsOf
  rw [htokens]
  simp only [List.map_cons, List.map_nil, object.part_token, hdot]
  simp [Token.part, List.filter_cons]

/-- **What a line with an untagged text comes to.** -/
theorem scan_writtenText (hsubject : '>' ∉ subject) (hpredicate : '>' ∉ predicate) (hcap : 0 < cap)
    (htype : localName predicate ≠ Field.type.toList) :
    scan cap (writtenText g subject predicate object) =
      if localName subject = [] ∨ localName predicate = [] then none
      else some {
        subject := String.ofList (localName subject)
        predicate := String.ofList (localName predicate)
        object := String.ofList (dropStop (trimmed object.text)) } := by
  have htext := object.trimmed_ne_nil
  have hparts := partsOf_coreOf g object hsubject hpredicate
  rw [← trimmed_writtenText] at hparts
  by_cases hnone : localName subject = [] ∨ localName predicate = []
  · rw [if_pos hnone]
    refine scan_of_few ?_
    rw [hparts]
    rcases hnone with hnil | hnil
    · exact List.length_filter_lt_length_iff_exists.mpr ⟨[], by simp [hnil], by simp⟩
    · exact List.length_filter_lt_length_iff_exists.mpr ⟨[], by simp [hnil], by simp⟩
  · obtain ⟨hs, hp⟩ := not_or.mp hnone
    have hall : [localName subject, localName predicate, trimmed object.text].filter (!·.isEmpty) =
        [localName subject, localName predicate, trimmed object.text] := by
      simp [hs, hp, htext]
    have hopens : (trimmed (writtenText g subject predicate object).toList).head? ≠ some '#' := by
      rw [trimmed_writtenText, coreOf, List.head?_cons]
      decide
    have hfield : String.ofList (localName predicate) ≠ Field.type := by
      intro heq
      apply htype
      rw [← heq, String.toList_ofList]
    rw [if_neg hnone, scan_of_parts hopens (hparts.trans hall)]
    simp only [tripleOf, dropFinalStop, joinUpTo_singleton hcap, if_neg hfield]

/-- **Which untagged texts are kept.**  A line with two IRIs and a text gives no triple if an IRI has no
local name.  Otherwise its object is the text without its margins, exactly if that does not end in
what can be taken for the dot of a statement; and if it does, this dot is missing and all else is
there. -/
theorem scan_untagged (hsubject : '>' ∉ subject) (hpredicate : '>' ∉ predicate) (hcap : 1 ≤ cap)
    (htype : localName predicate ≠ Field.type.toList) :
    (localName subject = [] ∨ localName predicate = [] →
      scan cap (writtenText g subject predicate object) = none) ∧
    (localName subject ≠ [] → localName predicate ≠ [] →
      (scan cap (writtenText g subject predicate object) = some {
          subject := String.ofList (localName subject)
          predicate := String.ofList (localName predicate)
          object := String.ofList (trimmed object.text) } ↔
        ¬EndsInStop (trimmed object.text)) ∧
      ∀ front, front ≠ [] → front.getLast? ≠ some '.' → trimmed object.text = front ++ ['.'] →
        scan cap (writtenText g subject predicate object) = some {
          subject := String.ofList (localName subject)
          predicate := String.ofList (localName predicate)
          object := String.ofList front }) := by
  have hscan := scan_writtenText g object hsubject hpredicate hcap htype
  refine ⟨fun hnone => ?_, fun hs hp => ?_⟩
  · rw [hscan, if_pos hnone]
  rw [if_neg (not_or.mpr ⟨hs, hp⟩)] at hscan
  refine ⟨?_, fun front hne hlast htext => ?_⟩
  · rw [hscan, ← dropStop_eq_self_iff]
    simp [String.ofList_inj]
  · rw [hscan, htext, dropStop_concat hne hlast]

end Lines

/-! ### Two texts -/

/-- A text with escapes, and with what looks like an IRI, like a comment and like the end of a
statement. -/
def initials : Untagged where
  text := " \"A.I.\" <x> #1 ^^<y> ... ".toList
  datatype := some "http://x#string".toList
  text_plain := by decide
  text_shows := by decide
  datatype_closed := by decide

theorem scan_initials :
    scan 1 "<http://a.b/m.1><x#name>\t\" \\\"A.I.\\\" <x> #1 ^^<y> ... \"^^<http://x#string>. " =
      some ⟨"m.1", "name", "\"A.I.\" <x> #1 ^^<y> ..."⟩ := by
  have hsubject : '>' ∉ "http://a.b/m.1".toList := by decide
  have hpredicate : '>' ∉ "x#name".toList := by decide
  have hkept := ((scan_untagged { afterPredicate := ['\t'], trail := [' '] } initials hsubject
    hpredicate (Nat.le_refl 1) (by decide)).2 (by decide) (by decide)).1
  refine hkept.mpr ?_
  rw [← dropStop_eq_self_iff]
  decide

/-- A name that is abbreviated. -/
def junior : Untagged where
  text := "Martin Luther King Jr.".toList
  datatype := none
  text_plain := by decide
  text_shows := by decide
  datatype_closed := by decide

/-- **A text that ends in a dot loses it**, though the statement has a dot of its own. -/
theorem scan_junior :
    '\\' ∉ junior.text ∧ ¬IsMargin junior.text ∧
      String.ofList (trimmed junior.text) = "Martin Luther King Jr." ∧
      scan 512 "<m.1> <name> \"Martin Luther King Jr.\" ." =
        some ⟨"m.1", "name", "Martin Luther King Jr"⟩ := by
  have hsubject : '>' ∉ "m.1".toList := by decide
  have hpredicate : '>' ∉ "name".toList := by decide
  have hcap : 0 < 512 := by decide
  have hscan := scan_writtenText { afterSubject := [' '], afterPredicate := [' '], beforeStop := [' '] }
    junior hsubject hpredicate hcap (by decide)
  exact ⟨junior.text_plain, junior.text_shows, by decide, hscan⟩

end GraphAnswers.Dump
