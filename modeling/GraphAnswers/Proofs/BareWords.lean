import GraphAnswers.Language
import GraphAnswers.Proofs.Layout
import GraphAnswers.Proofs.PlainRows
import GraphAnswers.Proofs.WrittenTriples
/-!
# Lines of bare words

Where nothing in a line is written as an IRI or as a literal, its tokens are its words
(`Dump.Token.ofText_eq_map_bare`).  The words of the object are joined by spaces again; but a bare word
is treated as if it were an IRI, and only its local name is kept (`Dump.IsBare.scan_eq`).  So the object
is read as it is written exactly if no `/` and no `#` is in it (`Dump.bare_words_kept`).
-/
namespace GraphAnswers

open Text

/-! ### Joined words -/

namespace Text

theorem byteLength_append (cs ds : List Char) :
    byteLength (cs ++ ds) = byteLength cs + byteLength ds := by
  induction cs with
  | nil => simp [byteLength]
  | cons c cs ih =>
    show c.utf8Size + byteLength (cs ++ ds) = c.utf8Size + byteLength cs + byteLength ds
    omega

end Text

namespace Dump

/-- **Words that are shorter than the bound are joined, all of them.** -/
theorem joinUpTo_words {cap : Nat} {w : String} {ws : List String} (hne : w.toList ≠ [])
    (hcap : byteLength (unwords (w :: ws)).toList < cap) :
    joinUpTo cap w.toList (ws.map String.toList) = (unwords (w :: ws)).toList := by
  induction ws generalizing w with
  | nil => rw [unwords_singleton, List.map_nil, joinUpTo]
  | cons v ws ih =>
    have hjoin : (w ++ " " ++ v).toList = w.toList ++ ' ' :: v.toList := by simp
    have hshort : byteLength w.toList < cap := by
      rw [unwords_cons w (by simp), String.toList_append, String.toList_append, byteLength_append,
        byteLength_append] at hcap
      omega
    rw [unwords_cons_cons] at hcap ⊢
    rw [List.map_cons, joinUpTo, if_neg (by omega), if_neg (by simpa using hne), ← hjoin]
    exact ih (by simp) hcap

/-! ### Local names -/

theorem isSeparator_of_mem_localName {cs : List Char} {c : Char} (h : c ∈ localName cs) :
    isSeparator c = false :=
  (mem_of_mem_splitWhere (afterLast_mem cs) c h).2

/-- The local names of words, of those that have one. -/
def localNames (ws : List String) : List (List Char) :=
  (ws.map fun w => localName w.toList).filter (!·.isEmpty)

/-- Words without a separator are their local names. -/
theorem localNames_eq {ws : List String} (hws : ∀ w ∈ ws, IsWord w)
    (h : ∀ w ∈ ws, ∀ c ∈ w.toList, isSeparator c = false) :
    localNames ws = ws.map String.toList := by
  have hmap : (ws.map fun w => localName w.toList) = ws.map String.toList :=
    List.map_congr_left fun w hw => afterLast_of_none (h w hw)
  unfold localNames
  rw [hmap]
  refine List.filter_eq_self.mpr fun part hpart => ?_
  obtain ⟨w, hw, rfl⟩ := List.mem_map.mp hpart
  simpa using (hws w hw).ne_nil

theorem isSeparator_of_mem_localNames {ws : List String} {part : List Char}
    (h : part ∈ localNames ws) : ∀ c ∈ part, isSeparator c = false := by
  obtain ⟨w, _, rfl⟩ := List.mem_map.mp (List.mem_of_mem_filter h)
  exact fun c hc => isSeparator_of_mem_localName hc

/-- Parts of which the last one ends in no dot are left as they are. -/
theorem dropFinalStop_eq_self {parts : List (List Char)}
    (h : ∀ part ∈ parts.getLast?, part.getLast? ≠ some '.') : dropFinalStop parts = parts := by
  fun_induction dropFinalStop parts with
  | case1 => rfl
  | case2 last => rw [dropStop_eq_self (h last rfl)]
  | case3 part rest hrest ih =>
    rcases List.eq_nil_or_concat' rest with rfl | ⟨front, last, rfl⟩
    · rfl
    · rw [ih fun p hp => h p (by simpa [List.getLast?_cons] using hp)]

/-! ### Lines -/

/-- **Without brackets and quotes, the tokens of a line are its words.** -/
theorem Token.ofText_eq_map_bare {cs : List Char}
    (h : ∀ w ∈ wordsOf cs, ∀ c ∈ w.head?, c ≠ '<' ∧ c ≠ '"') :
    Token.ofText cs = (wordsOf cs).map Token.bare := by
  fun_induction Token.ofText cs with
  | case1 => rfl
  | case2 c cs hblank ih =>
    rw [wordsOf_cons_blank hblank] at h ⊢
    exact ih h
  | case3 c cs hblank ih =>
    have hwords := wordsOf_cons (by simpa using hblank) cs
    rw [hwords] at h
    obtain ⟨hbracket, hquote⟩ := h _ List.mem_cons_self c rfl
    have hfirst : Token.first c cs = Token.openWord c cs := by
      rw [Token.first, if_neg hbracket, if_neg hquote]
    rw [hfirst] at ih ⊢
    rw [hwords, List.map_cons, ih fun w hw => h w (List.mem_cons_of_mem _ hw)]
    rfl

/-- **A line of bare words**: a subject, a predicate that is not the one for types, and the words of an
object. -/
structure IsBare (line subject predicate : String) (object : List String) : Prop where
  words : Text.words line = subject :: predicate :: object
  object_ne_nil : object ≠ []
  opens : ∀ w ∈ subject :: predicate :: object, ∀ c ∈ w.toList.head?, c ≠ '<' ∧ c ≠ '"' ∧ c ≠ '#'
  subject_local : ∀ c ∈ subject.toList, isSeparator c = false
  predicate_local : ∀ c ∈ predicate.toList, isSeparator c = false
  predicate_ne_type : predicate ≠ Field.type
  /-- No token is the dot that ends a statement, and none ends in it. -/
  not_stop : "." ∉ subject :: predicate :: object
  ends : ∀ w ∈ object.getLast?, w.toList.getLast? ≠ some '.'

namespace IsBare

variable {line subject predicate : String} {object : List String}

theorem isWord (h : IsBare line subject predicate object) :
    ∀ w ∈ subject :: predicate :: object, IsWord w := by
  rw [← h.words]
  exact fun w hw => isWord_of_mem_words hw

/-- Each word of the line is a part of it, or what is left of it is. -/
theorem partsOf_line (h : IsBare line subject predicate object) :
    partsOf (trimmed line.toList) = subject.toList :: predicate.toList :: localNames object := by
  have hopens : ∀ w ∈ wordsOf (trimmed line.toList), ∀ c ∈ w.head?, c ≠ '<' ∧ c ≠ '"' := by
    intro w hw c hc
    rw [wordsOf_trimmed, ← words_toList, h.words] at hw
    obtain ⟨v, hv, rfl⟩ := List.mem_map.mp hw
    obtain ⟨hbracket, hquote, _⟩ := h.opens v hv c hc
    exact ⟨hbracket, hquote⟩
  have hparts : ((Text.words line).map String.toList).map (fun w => (Token.bare w).part) =
      (Text.words line).map fun w => localName w.toList := by
    rw [List.map_map]
    refine List.map_congr_left fun w hw => ?_
    have hdot : w.toList ≠ ['.'] := by
      intro hdot
      refine h.not_stop ?_
      rwa [h.words, ← String.ofList_toList (s := w), hdot] at hw
    exact if_neg hdot
  have hsubject : localName subject.toList = subject.toList := afterLast_of_none h.subject_local
  have hpredicate : localName predicate.toList = predicate.toList :=
    afterLast_of_none h.predicate_local
  have hne (w : String) (hw : w ∈ subject :: predicate :: object) : w.toList ≠ [] :=
    (h.isWord w hw).ne_nil
  unfold partsOf
  rw [Token.ofText_eq_map_bare hopens, wordsOf_trimmed, ← words_toList, List.map_map]
  show (((Text.words line).map String.toList).map fun w => (Token.bare w).part).filter _ = _
  rw [hparts, h.words, List.map_cons, List.map_cons, hsubject, hpredicate,
    List.filter_cons_of_pos (by simpa using hne subject (by simp)),
    List.filter_cons_of_pos (by simpa using hne predicate (by simp))]
  rfl

theorem head?_trimmed (h : IsBare line subject predicate object) :
    (trimmed line.toList).head? ≠ some '#' := by
  intro hcomment
  obtain ⟨cs, hline⟩ : ∃ cs, trimmed line.toList = '#' :: cs := List.head?_eq_some_iff.mp hcomment
  have hwords : (Text.words line).map String.toList =
      ('#' :: cs.takeWhile (!isBlank ·)) :: wordsOf (cs.dropWhile (!isBlank ·)) := by
    rw [words_toList, ← wordsOf_trimmed, hline, wordsOf_cons (by decide)]
  have hmem : '#' :: cs.takeWhile (!isBlank ·) ∈ (Text.words line).map String.toList := by
    rw [hwords]
    exact List.mem_cons_self
  rw [h.words] at hmem
  obtain ⟨w, hw, heq⟩ := List.mem_map.mp hmem
  exact (h.opens w hw '#' (by rw [heq]; rfl)).2.2 rfl

/-- **What a line of bare words comes to**: the local names of its words, if there are any. -/
theorem scan_eq (h : IsBare line subject predicate object) (cap : Nat) :
    scan cap line = if localNames object = [] then none else some {
      subject, predicate
      object := String.ofList (joinUpTo cap [] (dropFinalStop (localNames object))) } := by
  have hparts := h.partsOf_line
  cases hnames : localNames object with
  | nil =>
    rw [if_pos rfl]
    refine scan_of_few ?_
    rw [hparts, hnames]
    simp
  | cons part rest =>
    rw [if_neg (List.cons_ne_nil _ _)]
    rw [hnames] at hparts
    rw [scan_of_parts h.head?_trimmed hparts]
    simp only [tripleOf, String.ofList_toList, if_neg h.predicate_ne_type]

end IsBare

variable {line subject predicate : String} {object : List String} {cap : Nat}

theorem IsBare.scan_of_local (h : IsBare line subject predicate object)
    (hcap : byteLength (unwords object).toList < cap)
    (hlocal : ∀ w ∈ object, ∀ c ∈ w.toList, isSeparator c = false) :
    scan cap line = some ⟨subject, predicate, unwords object⟩ := by
  have hwords : ∀ w ∈ object, IsWord w := fun w hw => h.isWord w (by simp [hw])
  have hnames := localNames_eq hwords hlocal
  have hends : dropFinalStop (object.map String.toList) = object.map String.toList := by
    refine dropFinalStop_eq_self fun part hpart => ?_
    rw [List.getLast?_map] at hpart
    obtain ⟨w, hw, rfl⟩ := Option.map_eq_some_iff.mp hpart
    exact h.ends w hw
  rw [h.scan_eq, hnames, if_neg (by simpa using h.object_ne_nil), hends]
  obtain ⟨w, ws, rfl⟩ := List.exists_cons_of_ne_nil h.object_ne_nil
  have hnone : ¬cap ≤ byteLength [] := by
    have : byteLength [] = 0 := rfl
    omega
  rw [List.map_cons, joinUpTo, if_neg hnone, if_pos List.isEmpty_nil,
    joinUpTo_words (hwords w List.mem_cons_self).ne_nil hcap, String.ofList_toList]

/-- **Which objects are kept as they are written.**  The words of the object, joined by spaces, are the
object of the triple exactly if no separator is in them.  Then a label that is followed by its tag is
stored as that label. -/
theorem bare_words_kept (h : IsBare line subject predicate object)
    (hcap : byteLength (unwords object).toList < cap) :
    (scan cap line = some ⟨subject, predicate, unwords object⟩ ↔
      ∀ w ∈ object, ∀ c ∈ w.toList, isSeparator c = false) ∧
    ∀ (language : Language) label, label ≠ [] → object = label ++ [language.tag] →
      (∀ w ∈ object, ∀ c ∈ w.toList, isSeparator c = false) →
      scan cap line = some ⟨subject, predicate, language.mark (unwords label)⟩ := by
  refine ⟨⟨fun hscan w hw c hc => ?_, h.scan_of_local hcap⟩, ?_⟩
  · rw [h.scan_eq] at hscan
    split at hscan
    · cases hscan
    have hobject : String.ofList (joinUpTo cap [] (dropFinalStop (localNames object))) =
        unwords object := congrArg Triple.object (Option.some.inj hscan)
    have hmem := mem_unwords_of_mem hw hc
    rw [← hobject, String.toList_ofList] at hmem
    by_contra hseparator
    -- no separator is left in local names, and the spaces between them are none
    refine absurd hmem (notMem_joinUpTo List.not_mem_nil (notMem_dropFinalStop ?_) ?_)
    · exact fun part hpart hin => hseparator (isSeparator_of_mem_localNames hpart c hin)
    · rintro rfl
      exact hseparator (by decide)
  · rintro language label hlabel rfl hlocal
    rw [h.scan_of_local hcap hlocal, unwords_append hlabel (by simp), unwords_singleton]
    rfl

/-- A label in which brackets, quotes and dots are inside words or at their ends. -/
theorem scan_bare_label :
    scan 27 " m.1\tlabel Mr.  a<b>c 5\"d^^ ... @pt-br " =
      some ⟨"m.1", "label", "Mr. a<b>c 5\"d^^ ... @pt-br"⟩ := by
  have hbare : IsBare " m.1\tlabel Mr.  a<b>c 5\"d^^ ... @pt-br " "m.1" "label"
      ["Mr.", "a<b>c", "5\"d^^", "...", "@pt-br"] :=
    ⟨by decide, by decide, by simp, by simp [isSeparator], by simp [isSeparator], by decide, by decide,
      by decide⟩
  have hshort : byteLength (unwords ["Mr.", "a<b>c", "5\"d^^", "...", "@pt-br"]).toList < 27 := by
    decide
  have hkept := (bare_words_kept hbare hshort).2 ⟨"pt-br"⟩
    ["Mr.", "a<b>c", "5\"d^^", "..."] (List.cons_ne_nil _ _) rfl (by simp [isSeparator])
  exact hkept

/-- **A word with a slash in it loses what stands in front of it.** -/
theorem scan_slash :
    IsBare "m.1 label AC/DC @en" "m.1" "label" ["AC/DC", "@en"] ∧
      byteLength (unwords ["AC/DC", "@en"]).toList < 512 ∧
      scan 512 "m.1 label AC/DC @en" = some ⟨"m.1", "label", "DC @en"⟩ := by
  have hbare : IsBare "m.1 label AC/DC @en" "m.1" "label" ["AC/DC", "@en"] :=
    ⟨by decide, by decide, by simp, by simp [isSeparator], by simp [isSeparator], by decide, by decide,
      by decide⟩
  refine ⟨hbare, by decide, ?_⟩
  rw [hbare.scan_eq]
  decide

end Dump

end GraphAnswers
