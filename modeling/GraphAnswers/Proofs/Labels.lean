import GraphAnswers.Proofs.Agreement
import GraphAnswers.Proofs.Statement
import GraphAnswers.Proofs.Upkeep
/-!
# The labels that are shown

A label is written into a dump as a literal with a language tag, stored as the text and the tag, and
shown in the language of the tag again: the text as it was written, with spaces for hyphens.  But
the hyphens give way in the whole of what is stored, and so in the tag as well.  A tag with a hyphen
names no language that any stored label is in, and in that language nothing is shown
(`Upkeep.label_shown_unless_hyphen`).
-/
namespace GraphAnswers

open Text

/-! ### A stored label in a language -/

/-- A character as it is shown. -/
def shownChar (c : Char) : Char := if c == '-' then ' ' else c

theorem toList_shownObject (s : String) : (shownObject s).toList = s.toList.map shownChar :=
  String.toList_ofList

theorem isBlank_shownChar {c : Char} (h : isBlank c = true) : isBlank (shownChar c) = true := by
  unfold shownChar
  split
  · decide
  · exact h

/-- No hyphen is shown. -/
theorem shownChar_ne_hyphen (c : Char) : shownChar c ≠ '-' := by
  unfold shownChar
  split
  · decide
  · rename_i h
    exact fun heq => h (beq_iff_eq.mpr heq)

theorem hyphen_notMem_map_shownChar (cs : List Char) : '-' ∉ cs.map shownChar := by
  intro hmem
  obtain ⟨c, _, hc⟩ := List.mem_map.mp hmem
  exact shownChar_ne_hyphen c hc

/-- What has no hyphen is shown as it is. -/
theorem map_shownChar_eq_self {cs : List Char} (h : '-' ∉ cs) : cs.map shownChar = cs := by
  have hsame (c : Char) (hc : c ∈ cs) : shownChar c = id c := by
    have hne : ¬(c == '-') = true := by
      rw [beq_iff_eq]
      rintro rfl
      exact h hc
    exact if_neg hne
  rw [List.map_congr_left hsame, List.map_id]

/-- What is stored for a label. -/
def storedLabel (text tag : List Char) : String := String.ofList (trimmed text ++ ' ' :: '@' :: tag)

/-- A text as a label shows it. -/
def shownText (text : List Char) : String := trim (shownObject (String.ofList text))

namespace Language

theorem code_ofText {tag : List Char} (h : Dump.Token.isTag tag = true) :
    (ofText (String.ofList tag)).code.toList = tag := by
  have hblank : ∀ c ∈ tag, isBlank c = false := fun c hc =>
    Dump.Token.isBlank_of_isTagChar (Dump.Token.isTagChar_of_mem h hc)
  have htrim : trimmed tag = tag :=
    trimmed_eq_self (fun c hc => hblank c (List.mem_of_head? hc))
      fun c hc => hblank c (List.mem_of_getLast? hc)
  unfold ofText
  rw [String.toList_ofList, htrim]
  split
  · exact absurd List.mem_cons_self (Dump.Token.notMem_of_isTag h (by decide))
  · exact String.toList_ofList

/-- **How a stored label is shown**: in the language that its tag, with spaces for hyphens, names. -/
theorem display_storedLabel (l : Language) {text tag : List Char} (h : '@' ∉ tag) :
    l.display (shownObject (storedLabel text tag)) =
      .ok (if tag.map shownChar = l.code.toList then some (shownText text) else none) := by
  have hat : '@' ∉ tag.map shownChar := by
    intro hmem
    obtain ⟨c, hc, heq⟩ := List.mem_map.mp hmem
    unfold shownChar at heq
    split at heq
    · cases heq
    · exact h (heq ▸ hc)
  -- no `@` comes after that of the tag, whatever stands in the text
  have hsplit : splitLast? '@' (shownObject (storedLabel text tag)).toList =
      some ((trimmed text).map shownChar ++ [' '], tag.map shownChar) := by
    rw [toList_shownObject, storedLabel, String.toList_ofList, List.map_append]
    show splitLast? '@' ((trimmed text).map shownChar ++ ' ' :: '@' :: tag.map shownChar) = _
    rw [List.append_cons, splitLast?_append hat]
  have hshown : trim (shownObject (String.ofList ((trimmed text).map shownChar ++ [' ']))) =
      shownText text := by
    have hmap : ((trimmed text).map shownChar).map shownChar = (trimmed text).map shownChar :=
      map_shownChar_eq_self (hyphen_notMem_map_shownChar _)
    have hnone : IsMargin [] := by decide
    have hgap : IsMargin [' '] := by decide
    have htrimmed := trimmed_append hnone hgap ((trimmed text).map shownChar)
    rw [trimmed_map_trimmed fun _ => isBlank_shownChar] at htrimmed
    unfold trim shownText trim
    simp only [toList_shownObject, String.toList_ofList, List.map_append, hmap]
    exact congrArg String.ofList htrimmed
  unfold display
  rw [hsplit]
  dsimp only
  split
  · exact congrArg (fun s => Except.ok (some s)) hshown
  · rfl

end Language

/-! ### Labels that dumps give -/

namespace Reading

/-- Whether the labels that a dump gives are written as literals with language tags. -/
def TagsLabels (r : Reading) : Prop :=
  ∀ line t, r.GivesBy line t → t.predicate = Field.label →
    ∃ (s : Dump.Statement) (body tag : List Char), s.object = .tagged body tag ∧ line = s.line

/-- Whether a dump gives a subject a label: a text, written with its quotes escaped, and a tag. -/
def GivesLabel (r : Reading) (subject : String) (text tag : List Char) : Prop :=
  ∃ (s : Dump.Statement) (t : Triple), s.object = .tagged (Dump.escapeQuotes text) tag ∧
    r.GivesBy s.line t ∧ t.subject = subject ∧ t.predicate = Field.label

variable {r : Reading}

/-- What is stored of a label. -/
theorem GivesBy.object_eq {s : Dump.Statement} {body tag : List Char} {t : Triple}
    (h : r.GivesBy s.line t) (hcap : 0 < r.options.maxObjectLength)
    (hobject : s.object = .tagged body tag) (hlabel : t.predicate = Field.label) :
    Dump.Token.isTag tag = true ∧ t.object = storedLabel (Dump.unescapeQuotes body) tag := by
  have htag : Dump.Token.isTag tag = true := by
    have hwritten := s.object_isWellFormed
    rw [hobject] at hwritten
    exact (Bool.and_eq_true_iff.mp hwritten).2
  obtain ⟨_, hscan, _⟩ := h
  rw [s.scan_line hcap] at hscan
  split at hscan
  · cases hscan
  · cases hscan
    have hname : ¬Field.label = Field.type := by decide
    refine ⟨htag, ?_⟩
    change String.ofList s.predicate.token.part = Field.label at hlabel
    unfold Dump.Statement.triple
    dsimp only
    rw [hlabel, if_neg hname, hobject, Dump.dropStop_part_tagged htag]
    rfl

end Reading

namespace Upkeep

variable {path : String} {u : Upkeep}

/-- The triples of an index are those that its dumps give. -/
theorem InOrder.mem_triples (h : u.InOrder) {t : Triple} :
    t ∈ u.index.store.triples ↔ ∃ r ∈ u.readings, r.Gives t := by
  rw [Store.mem_triples]
  constructor
  · rintro ⟨dump, hrow⟩
    obtain ⟨r, hr, _, hgives⟩ := (h.rows _).mp hrow
    exact ⟨r, hr, hgives⟩
  · rintro ⟨r, hr, hgives⟩
    exact ⟨r.id, (h.rows _).mpr ⟨r, hr, rfl, hgives⟩⟩

/-- What the labels of a subject are when they are looked up. -/
theorem InOrder.mem_labels (h : u.InOrder) {subject value : String} :
    value ∈ u.index.store.triples.objectsOf Field.label subject ↔
      ∃ r ∈ u.readings, ∃ t, r.Gives t ∧ t.subject = subject ∧ t.predicate = Field.label ∧
        shownObject t.object = value := by
  rw [TripleSet.mem_objectsOf]
  constructor
  · rintro ⟨object, hmem, rfl⟩
    obtain ⟨r, hr, hgives⟩ := h.mem_triples.mp hmem
    exact ⟨r, hr, _, hgives, rfl, rfl, rfl⟩
  · rintro ⟨r, hr, ⟨_, _, object⟩, hgives, rfl, rfl, rfl⟩
    exact ⟨object, h.mem_triples.mpr ⟨r, hr, hgives⟩, rfl⟩

/-- **A label is shown in its own language, unless its tag has a hyphen.**  If the dumps that an
index is made of write their labels as literals with language tags, and one of them gives a topic a
label, then the labels of the topic in the language of the tag can be had.  The text is among them
if there is no hyphen in the tag; if there is one, there are none. -/
theorem label_shown_unless_hyphen {d : Database}
    (made : Migration.setUp .empty = (.ok (), d))
    (history : History path (start d) u)
    (hcap : ∀ r ∈ u.readings, 0 < r.options.maxObjectLength)
    (htagged : ∀ r ∈ u.readings, r.TagsLabels) {topic : Element} (htopic : topic.kind = .topic)
    {r : Reading} (hr : r ∈ u.readings) {text tag : List Char} (htext : '\\' ∉ text)
    (hgives : r.GivesLabel topic.id text tag) :
    ∃ shown, (Inquiry.labels topic (.ofText (String.ofList tag))).run u.index.index = .ok shown ∧
      ('-' ∉ tag → shownText text ∈ shown) ∧ ('-' ∈ tag → shown = .empty) := by
  have hu := history.inOrder (inOrder_start made)
  obtain ⟨s, t, hobject, hline, hsubject, hlabel⟩ := hgives
  obtain ⟨htag, hstored⟩ := hline.object_eq (hcap r hr) hobject hlabel
  rw [Dump.unescapeQuotes_escapeQuotes htext] at hstored
  have hat {tag : List Char} (h : Dump.Token.isTag tag = true) : '@' ∉ tag :=
    Dump.Token.notMem_of_isTag h (by decide)
  -- every label of the topic is read, and none has a tag with a hyphen left in it
  have hread : ∀ v ∈ u.index.store.triples.objectsOf Field.label topic.id, ∃ text' tag',
      (Language.ofText (String.ofList tag)).display v =
        .ok (if List.map shownChar tag' = tag then some (shownText text') else none) := by
    intro v hv
    obtain ⟨r', hr', t', ⟨line, hline'⟩, _, hlabel', rfl⟩ := hu.mem_labels.mp hv
    obtain ⟨s', body', tag', hobject', rfl⟩ := htagged r' hr' line t' hline' hlabel'
    obtain ⟨htag', hstored'⟩ := hline'.object_eq (hcap r' hr') hobject' hlabel'
    refine ⟨Dump.unescapeQuotes body', tag', ?_⟩
    rw [hstored', Language.display_storedLabel _ (hat htag'), Language.code_ofText htag]
  have hvalue : shownObject t.object ∈ u.index.store.triples.objectsOf Field.label topic.id :=
    hu.mem_labels.mpr ⟨r, hr, t, ⟨_, hline⟩, hsubject, hlabel, rfl⟩
  obtain ⟨shown, hshown, hmem⟩ := Inquiry.displayed_ok fun v hv =>
    let ⟨_, _, htext⟩ := hread v hv
    ⟨_, htext⟩
  refine ⟨shown, ?_, fun hnone => (hmem _).mpr ⟨_, hvalue, ?_⟩, fun hhyphen => ?_⟩
  · unfold Inquiry.labels
    rw [htopic]
    show (Inquiry.tagged Field.label topic _).run u.index.index = _
    have hfound := SortedSet.isEmpty_eq_false_iff.mpr ⟨_, hvalue⟩
    rw [Inquiry.tagged, Inquiry.run_bind, Inquiry.run_values,
      Database.index_eq_of_needRows hu.tables.rows, TripleSet.index_property, nonEmpty, hfound]
    exact hshown
  · rw [hstored, Language.display_storedLabel _ (hat htag), Language.code_ofText htag,
      if_pos (map_shownChar_eq_self hnone)]
  · refine SortedSet.ext fun x => iff_of_false (fun hx => ?_) (SortedSet.not_mem_empty x)
    obtain ⟨v, hv, hdisplay⟩ := (hmem x).mp hx
    obtain ⟨text', tag', htext'⟩ := hread v hv
    rw [htext'] at hdisplay
    split at hdisplay
    · rename_i hsame
      exact hyphen_notMem_map_shownChar tag' (hsame ▸ hhyphen)
    · cases hdisplay

end Upkeep

/-! ### One topic, and labels in two languages -/

namespace Dump

/-- A statement of a label. -/
def Statement.ofLabel (subject text tag : List Char)
    (hsubject : (Piece.iri subject).isWellFormed = true) (htext : '\\' ∉ text)
    (htag : Token.isTag tag = true) : Statement where
  lead := []
  subject := .iri subject
  afterSubject := [' ']
  predicate := .iri "label".toList
  afterPredicate := [' ']
  object := .tagged (escapeQuotes text) tag
  stop := some [' ']
  trail := []
  lead_isMargin := by decide
  subject_isWellFormed := hsubject
  subject_opens := by
    rw [Piece.text, List.head?_cons]
    decide
  afterSubject_isMargin := by decide
  subject_ends := rfl
  predicate_isWellFormed := by decide
  afterPredicate_isMargin := by decide
  predicate_ends := rfl
  object_isWellFormed := Bool.and_eq_true_iff.mpr ⟨isBody_escapeQuotes htext, htag⟩
  stop_isMargin := by
    rintro gap hgap
    cases hgap
    decide
  object_ends := rfl
  trail_isMargin := by decide

/-- A label in English. -/
def inEnglish : Statement :=
  .ofLabel "m.1".toList "Jaws".toList "en".toList (by decide) (by decide) (by decide)

/-- A label in Brazilian Portuguese. -/
def inPortuguese : Statement :=
  .ofLabel "m.1".toList "Tubarao".toList "pt-br".toList (by decide) (by decide) (by decide)

end Dump

namespace FileTree

/-- A dump of two labels. -/
def twoLabels : List UInt8 :=
  octets "<m.1> <label> \"Jaws\"@en .\n<m.1> <label> \"Tubarao\"@pt-br .\n"

/-- The dump beside a new index. -/
def withLabels : FileTree :=
  (oneDump.set ["b.nt"] (.file (.octets twoLabels))).set ["f.db"] (.file (.index Migration.fresh))

/-- A dump of any content may stand beside a new index. -/
theorem holds_beside (content : List UInt8) :
    ((oneDump.set ["b.nt"] (.file (.octets content))).set ["f.db"]
      (.file (.index Migration.fresh))).Holds "./f.db" { place := ["f.db"] } Migration.fresh := by
  have hopened : (oneDump.set ["b.nt"] (.file (.octets content))).opening? "./f.db" =
      some { place := ["f.db"] } := by
    rw [opening?_set (by decide), opening?_oneDump]
  exact holds_set hopened rfl (by decide) Migration.fresh

theorem read_beside (content : List UInt8) :
    ((oneDump.set ["b.nt"] (.file (.octets content))).set ["f.db"]
      (.file (.index Migration.fresh))).read "./b.nt" = .ok content := rfl

theorem holds_withLabels : withLabels.Holds "./f.db" { place := ["f.db"] } Migration.fresh :=
  holds_beside twoLabels

end FileTree

namespace Upkeep

/-- The dump as it is read. -/
def labelReading : Reading := ⟨⟨"b.nt", fileName "./b.nt", FileTree.twoLabels⟩, {}⟩

/-- The index that is made of it. -/
def labelled : Upkeep where
  index := (Database.ingest {} 1 labelReading.dump Migration.fresh).2
  readings := [labelReading]
  now := 2

theorem history_labelled : History "./f.db" (start Migration.fresh) labelled := by
  have hread : FileTree.withLabels.read "./b.nt" = .ok FileTree.twoLabels :=
    FileTree.read_beside FileTree.twoLabels
  have htaken : (Database.ingest {} 1 labelReading.dump Migration.fresh).1 = .ok ⟨2, 2, 0⟩ := by
    decide +kernel
  exact History.start.step
    (step_of_ingest FileTree.holds_withLabels (Nat.zero_le 1) hread htaken)

theorem readLines_labelReading :
    labelReading.dump.readLines = .ok [Dump.inEnglish.line, Dump.inPortuguese.line] := by
  decide +kernel

theorem tagsLabels_labelReading : labelReading.TagsLabels := by
  rintro line t ⟨⟨lines, hlines, hline⟩, _⟩ _
  cases readLines_labelReading.symm.trans hlines
  rcases List.mem_cons.mp hline with rfl | hline
  · exact ⟨Dump.inEnglish, _, _, rfl, rfl⟩
  · cases List.mem_singleton.mp hline
    exact ⟨Dump.inPortuguese, _, _, rfl, rfl⟩

theorem givesLabel_of_mem {s : Dump.Statement} {text tag : List Char}
    (hline : s.line ∈ [Dump.inEnglish.line, Dump.inPortuguese.line]) (hparts : [] ∉ s.parts)
    (hobject : s.object = .tagged (Dump.escapeQuotes text) tag)
    (hlabel : s.triple.predicate = Field.label) :
    labelReading.GivesLabel s.triple.subject text tag := by
  have hscan := s.scan_line (Nat.zero_lt_succ 511)
  rw [if_neg hparts] at hscan
  exact ⟨s, s.triple, hobject, ⟨⟨_, readLines_labelReading, hline⟩, hscan, rfl⟩, rfl, hlabel⟩

/-- The topic. -/
def jaws : Element := ⟨.topic, "m.1", by decide⟩

theorem givesLabel_english : labelReading.GivesLabel jaws.id "Jaws".toList "en".toList := by
  have hid : jaws.id = Dump.inEnglish.triple.subject := by decide
  rw [hid]
  exact givesLabel_of_mem List.mem_cons_self (by decide) rfl (by decide)

theorem givesLabel_portuguese :
    labelReading.GivesLabel jaws.id "Tubarao".toList "pt-br".toList := by
  have hid : jaws.id = Dump.inPortuguese.triple.subject := by decide
  rw [hid]
  exact givesLabel_of_mem (List.mem_cons_of_mem _ List.mem_cons_self) (by decide) rfl (by decide)

theorem jaws_shown :
    ∃ shown, (Inquiry.labels jaws (.ofText "en")).run labelled.index.index = .ok shown ∧
      "Jaws" ∈ shown := by
  have htopic : jaws.kind = .topic := rfl
  have hplain : '\\' ∉ "Jaws".toList := by decide
  have hcap : ∀ r ∈ labelled.readings, 0 < r.options.maxObjectLength :=
    fun r hr => List.mem_singleton.mp hr ▸ Nat.zero_lt_succ 511
  have htagged : ∀ r ∈ labelled.readings, r.TagsLabels :=
    fun r hr => List.mem_singleton.mp hr ▸ tagsLabels_labelReading
  obtain ⟨shown, hshown, hmem, _⟩ := label_shown_unless_hyphen Migration.setUp_empty
    history_labelled hcap htagged htopic (List.mem_singleton.mpr rfl) hplain givesLabel_english
  have htext : shownText "Jaws".toList = "Jaws" := by decide
  exact ⟨shown, hshown, htext ▸ hmem (by decide)⟩

/-- **A label that is not shown in its own language.** -/
theorem tubarao_not_shown :
    History "./f.db" (start Migration.fresh) labelled ∧
    (∀ r ∈ labelled.readings, 0 < r.options.maxObjectLength ∧ r.TagsLabels) ∧
    (∃ r ∈ labelled.readings, r.GivesLabel jaws.id "Tubarao".toList "pt-br".toList) ∧
    (Inquiry.labels jaws (.ofText "pt-br")).run labelled.index.index = .ok .empty := by
  refine ⟨history_labelled, fun r hr => ?_,
    ⟨labelReading, List.mem_singleton.mpr rfl, givesLabel_portuguese⟩, by decide +kernel⟩
  cases List.mem_singleton.mp hr
  exact ⟨Nat.zero_lt_succ 511, tagsLabels_labelReading⟩

end Upkeep

end GraphAnswers
