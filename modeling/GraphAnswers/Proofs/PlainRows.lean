import GraphAnswers.Proofs.Octets
import GraphAnswers.Proofs.Statement
import GraphAnswers.Proofs.Upkeep
import GraphAnswers.Proofs.Wording
/-!
# What rows from dumps cannot hold

A dump is cut into lines before anything else is done with it, so no row that comes from a dump holds
an end of line.  A part of a line is made of characters of the line, of spaces that join the parts of
an object, and of the `@` in front of a language tag.  The name of a type is put together from words,
so it holds no blank but spaces; in particular no carriage return (`Reading.Gives.isPlain`).
-/
namespace GraphAnswers

open Text

/-- **Whether a triple is plain**: there is no end of line in its subject and its object, and no
carriage return in the name of a type. -/
structure Triple.IsPlain (t : Triple) : Prop where
  subject : '\n' ∉ t.subject.toList
  object : '\n' ∉ t.object.toList
  type : t.predicate = Field.type → '\r' ∉ t.object.toList

/-- Whether every row of an index comes from a line of some dump. -/
def Database.IsFromDumps (d : Database) : Prop :=
  ∀ row ∈ d.store.rows, ∃ r : Reading, r.Gives row.triple

namespace Dump

/-! ### Tokens -/

namespace Token

/-- Whether a token is made of characters of a text. -/
def IsOf (cs : List Char) : Token → Prop
  | iri inside => inside.Sublist cs
  | literal body language => body.Sublist cs ∧ ∀ tag ∈ language, tag.Sublist cs
  | bare word => word.Sublist cs

variable {cs ds x y : List Char} {a : Char} {token : Token}

theorem IsOf.mono (h : token.IsOf cs) (hsub : cs.Sublist ds) : token.IsOf ds := by
  cases token with
  | iri inside => exact h.trans hsub
  | literal body language => exact ⟨h.1.trans hsub, fun tag htag => (h.2 tag htag).trans hsub⟩
  | bare word => exact h.trans hsub

theorem cutAt?_sublist (h : cutAt? a cs = some (x, y)) : x.Sublist cs ∧ y.Sublist cs := by
  induction cs generalizing x y with
  | nil => cases h
  | cons c cs ih =>
    unfold cutAt? at h
    split at h
    · cases h
      exact ⟨List.nil_sublist _, List.sublist_cons_self c cs⟩
    · obtain ⟨⟨u, v⟩, hcut, heq⟩ := Option.map_eq_some_iff.mp h
      cases heq
      obtain ⟨hu, hv⟩ := ih hcut
      exact ⟨hu.cons_cons c, hv.cons c⟩

theorem closeQuote?_sublist (h : closeQuote? cs = some (x, y)) :
    x.Sublist cs ∧ y.Sublist cs := by
  fun_induction closeQuote? cs generalizing x y with
  | case1 => cases h
  | case2 rest =>
    cases h
    exact ⟨List.nil_sublist _, List.sublist_cons_self _ _⟩
  | case3 => cases h
  | case4 => cases h
  | case5 c rest _ ih =>
    obtain ⟨⟨u, v⟩, hclose, heq⟩ := Option.map_eq_some_iff.mp h
    cases heq
    obtain ⟨hu, hv⟩ := ih hclose
    exact ⟨(hu.cons_cons c).cons_cons _, (hv.cons c).cons _⟩
  | case6 c rest _ _ _ ih =>
    obtain ⟨⟨u, v⟩, hclose, heq⟩ := Option.map_eq_some_iff.mp h
    cases heq
    obtain ⟨hu, hv⟩ := ih hclose
    exact ⟨hu.cons_cons c, hv.cons c⟩

theorem languageTag?_sublist (h : languageTag? cs = some (x, y)) :
    x.Sublist cs ∧ y.Sublist cs := by
  unfold languageTag? at h
  split at h
  · rename_i c rest
    split at h
    · cases h
      exact ⟨((List.takeWhile_sublist _).cons_cons c).cons _, ((List.dropWhile_sublist _).cons c).cons _⟩
    · cases h
  · cases h

theorem afterDatatype?_sublist (h : afterDatatype? cs = some x) : x.Sublist cs := by
  unfold afterDatatype? at h
  split at h
  · obtain ⟨⟨u, v⟩, hcut, rfl⟩ := Option.map_eq_some_iff.mp h
    exact (((cutAt?_sublist hcut).2.cons _).cons _).cons _
  · cases h

theorem openWord_isOf (c : Char) (cs : List Char) :
    (openWord c cs).1.IsOf (c :: cs) ∧ (openWord c cs).2.Sublist cs :=
  ⟨(List.takeWhile_sublist _).cons_cons c, List.dropWhile_sublist _⟩

theorem closeLiteral_isOf (hbody : x.Sublist cs) (hrest : y.Sublist cs) :
    (closeLiteral x y).1.IsOf cs ∧ (closeLiteral x y).2.Sublist cs := by
  unfold closeLiteral
  split
  · rename_i tag rest htag
    obtain ⟨htag, hafter⟩ := languageTag?_sublist htag
    refine ⟨⟨hbody, fun t ht => ?_⟩, hafter.trans hrest⟩
    cases ht
    exact htag.trans hrest
  · refine ⟨⟨hbody, fun t ht => by cases ht⟩, ?_⟩
    cases hafter : afterDatatype? y with
    | none => exact hrest
    | some after => exact (afterDatatype?_sublist hafter).trans hrest

theorem first_isOf (c : Char) (cs : List Char) :
    (first c cs).1.IsOf (c :: cs) ∧ (first c cs).2.Sublist cs := by
  have hcons : cs.Sublist (c :: cs) := List.sublist_cons_self c cs
  unfold first
  split
  · split
    · rename_i hcut
      obtain ⟨hin, hrest⟩ := cutAt?_sublist hcut
      exact ⟨hin.trans hcons, hrest⟩
    · exact openWord_isOf c cs
  split
  · split
    · rename_i hclose
      obtain ⟨hbody, hrest⟩ := closeQuote?_sublist hclose
      obtain ⟨htoken, hafter⟩ := closeLiteral_isOf hbody hrest
      exact ⟨htoken.mono hcons, hafter⟩
    · exact openWord_isOf c cs
  · exact openWord_isOf c cs

theorem isOf_of_mem_ofText (h : token ∈ ofText cs) : token.IsOf cs := by
  fun_induction ofText cs with
  | case1 => cases h
  | case2 c cs _ ih => exact (ih h).mono (List.sublist_cons_self c cs)
  | case3 c cs _ ih =>
    obtain ⟨hfirst, hrest⟩ := first_isOf c cs
    rcases List.mem_cons.mp h with rfl | h
    · exact hfirst
    · exact (ih h).mono (hrest.trans (List.sublist_cons_self c cs))

end Token

/-! ### Parts -/

variable {a : Char} {cs : List Char} {parts : List (List Char)}

theorem notMem_trimmed (h : a ∉ cs) : a ∉ trimmed cs := by
  obtain ⟨lead, trail, _, _, hcs⟩ := exists_margins cs
  intro ha
  refine h ?_
  rw [hcs]
  simp [ha]

theorem notMem_localName (h : a ∉ cs) : a ∉ localName cs :=
  fun ha => h (mem_of_mem_splitWhere (afterLast_mem cs) a ha).1

theorem unescapeQuotes_sublist (cs : List Char) : (unescapeQuotes cs).Sublist cs := by
  fun_induction unescapeQuotes cs with
  | case1 => exact List.nil_sublist _
  | case2 cs ih => exact (ih.cons_cons _).cons _
  | case3 c cs _ ih => exact ih.cons_cons c

/-- A part is made of characters of the line, but for the tag's space and `@`. -/
theorem Token.notMem_part {token : Token} (h : token.IsOf cs) (ha : a ∉ cs) (hspace : a ≠ ' ')
    (hat : a ≠ '@') : a ∉ token.part := by
  have hnot {x : List Char} (hx : x.Sublist cs) : a ∉ x := fun hmem => ha (hx.subset hmem)
  have hbody {x : List Char} (hx : x.Sublist cs) : a ∉ trimmed (unescapeQuotes x) :=
    notMem_trimmed (hnot ((unescapeQuotes_sublist x).trans hx))
  cases token with
  | iri inside => exact notMem_localName (hnot h)
  | literal body language =>
    cases language with
    | none => exact hbody h.1
    | some tag =>
      have htag := hnot (h.2 tag rfl)
      simp [Token.part, hbody h.1, htag, hspace, hat]
  | bare word =>
    show a ∉ (if word = ['.'] then [] else localName word)
    split
    · exact List.not_mem_nil
    · exact notMem_localName (hnot h)

theorem notMem_of_mem_partsOf {part : List Char} (h : part ∈ partsOf cs) (ha : a ∉ cs)
    (hspace : a ≠ ' ') (hat : a ≠ '@') : a ∉ part := by
  obtain ⟨token, htoken, rfl⟩ := List.mem_map.mp (List.mem_of_mem_filter h)
  exact Token.notMem_part (Token.isOf_of_mem_ofText htoken) ha hspace hat

theorem dropStop_sublist (part : List Char) : (dropStop part).Sublist part := by
  unfold dropStop
  split
  · exact List.Sublist.refl _
  · rename_i rest _ hreverse
    split
    · exact List.Sublist.refl _
    · have hpart : part = rest.reverse ++ ['.'] := by
        rw [← List.reverse_reverse part, hreverse, List.reverse_cons]
      rw [hpart]
      exact List.sublist_append_left _ _
  · exact List.Sublist.refl _

theorem notMem_dropFinalStop (h : ∀ part ∈ parts, a ∉ part) :
    ∀ part ∈ dropFinalStop parts, a ∉ part := by
  fun_induction dropFinalStop parts with
  | case1 => exact h
  | case2 last =>
    intro part hpart
    obtain rfl := List.mem_singleton.mp hpart
    exact fun ha => h last List.mem_cons_self ((dropStop_sublist last).subset ha)
  | case3 part rest _ ih =>
    intro part' hpart'
    rcases List.mem_cons.mp hpart' with rfl | hpart'
    · exact h _ List.mem_cons_self
    · exact ih (fun p hp => h p (List.mem_cons_of_mem _ hp)) part' hpart'

theorem notMem_joinUpTo {cap : Nat} {object : List Char} (hobject : a ∉ object)
    (h : ∀ part ∈ parts, a ∉ part) (hspace : a ≠ ' ') : a ∉ joinUpTo cap object parts := by
  induction parts generalizing object with
  | nil => exact hobject
  | cons part rest ih =>
    have hpart := h part List.mem_cons_self
    unfold joinUpTo
    split
    · exact hobject
    · refine ih ?_ fun p hp => h p (List.mem_cons_of_mem _ hp)
      split
      · exact hpart
      · simp [hobject, hpart, hspace]

/-- The name of a type consists of words and spaces. -/
theorem mem_reduceType {name : String} {c : Char} (h : c ∈ (reduceType name).toList) :
    c = ' ' ∨ isBlank c = false := by
  unfold reduceType at h
  refine (mem_unwords h).imp_right ?_
  rintro ⟨w, hw, hc⟩
  exact (isWord_of_mem_words (List.mem_of_mem_drop hw)).solid c hc

theorem notMem_reduceType {name : String} (hblank : isBlank a = true) (hspace : a ≠ ' ') :
    a ∉ (reduceType name).toList := by
  intro h
  rcases mem_reduceType h with h | h
  · exact hspace h
  · rw [hblank] at h
    cases h

/-! ### Lines -/

/-- **A line without an end gives a plain triple.** -/
theorem isPlain_scan {cap : Nat} {line : String} {t : Triple} (hline : '\n' ∉ line.toList)
    (h : scan cap line = some t) : t.IsPlain := by
  obtain ⟨_, subject, predicate, part, rest, hparts, rfl⟩ := scan_eq_some_iff.mp h
  have hpart (p : List Char) (hp : p ∈ subject :: predicate :: part :: rest) : '\n' ∉ p := by
    rw [← hparts] at hp
    exact notMem_of_mem_partsOf hp (notMem_trimmed hline) (by decide) (by decide)
  have hobject : '\n' ∉ joinUpTo cap [] (dropFinalStop (part :: rest)) :=
    notMem_joinUpTo List.not_mem_nil (notMem_dropFinalStop fun p hp =>
      hpart p (List.mem_cons_of_mem _ (List.mem_cons_of_mem _ hp))) (by decide)
  refine ⟨?_, ?_, fun htype => ?_⟩
  · show '\n' ∉ (String.ofList subject).toList
    rw [String.toList_ofList]
    exact hpart subject List.mem_cons_self
  · rw [object_tripleOf]
    split
    · exact notMem_reduceType (by decide) (by decide)
    · rwa [String.toList_ofList]
  · have hpredicate : String.ofList predicate = Field.type := htype
    rw [object_tripleOf, if_pos hpredicate]
    exact notMem_reduceType (by decide) (by decide)

/-- A line of a dump, with or without the carriage return before its end, has no end of line. -/
theorem notMem_of_mem_splitLines {octets line : List UInt8} (h : line ∈ splitLines octets) :
    10 ∉ line := by
  have hpiece (piece : List UInt8) (hp : piece ∈ splitWhere (· == 10) octets) : 10 ∉ piece :=
    fun hten => absurd (mem_of_mem_splitWhere hp 10 hten).2 (by decide)
  unfold splitLines at h
  split at h
  · cases h
  · rename_i last complete hreverse
    have hall (piece : List UInt8) (hp : piece ∈ last :: complete) : 10 ∉ piece := by
      rw [← hreverse] at hp
      exact hpiece piece (List.mem_reverse.mp hp)
    dsimp only at h
    -- the last piece counts only if it is not empty
    split at h
    on_goal 1 => replace h := List.mem_append_left [last] h
    all_goals
      rcases List.mem_append.mp h with h | h
      · obtain ⟨piece, hp, rfl⟩ := List.mem_map.mp h
        have hten := hall piece (List.mem_cons_of_mem _ (List.mem_reverse.mp hp))
        split
        · rename_i rest hrest
          intro hmem
          refine hten (List.mem_reverse.mp ?_)
          rw [hrest]
          exact List.mem_cons_of_mem _ (List.mem_reverse.mp hmem)
        · exact hten
      · obtain rfl := List.mem_singleton.mp h
        exact hall line List.mem_cons_self

theorem notMem_of_lineText {octets : List UInt8} {line : String} (h : 10 ∉ octets)
    (hline : lineText octets = .ok line) : '\n' ∉ line.toList := by
  unfold lineText at hline
  split at hline
  · rename_i s hs
    cases hline
    rwa [← newline_mem_octets, octets_of_ofOctets? hs]
  · cases hline

end Dump

/-- **No line of a dump has an end in it.** -/
theorem DumpFile.notMem_of_mem_lines {d : DumpFile} {line : String} (h : .ok line ∈ d.lines) :
    '\n' ∉ line.toList := by
  have hcontent {octets : List UInt8}
      (hmem : .ok line ∈ (Dump.splitLines octets).map Dump.lineText) : '\n' ∉ line.toList := by
    obtain ⟨piece, hpiece, hline⟩ := List.mem_map.mp hmem
    exact Dump.notMem_of_lineText (Dump.notMem_of_mem_splitLines hpiece) hline
  unfold DumpFile.lines at h
  split at h
  · split at h
    · exact hcontent h
    · cases List.mem_singleton.mp h
  · exact hcontent h

theorem DumpFile.mem_lines_of_readLines {d : DumpFile} {lines : List String} {line : String}
    (hread : d.readLines = .ok lines) (h : line ∈ lines) : .ok line ∈ d.lines := by
  have hall (outcomes : List (Except Failure String)) (texts : List String)
      (hm : outcomes.mapM id = .ok texts) (text : String) (ht : text ∈ texts) :
      .ok text ∈ outcomes := by
    induction outcomes generalizing texts with
    | nil =>
      cases hm
      cases ht
    | cons outcome outcomes ih =>
      rw [List.mapM_cons] at hm
      obtain ⟨first, hfirst, hm⟩ := bind_ok_iff.mp hm
      obtain ⟨others, hothers, hm⟩ := bind_ok_iff.mp hm
      cases hm
      rcases List.mem_cons.mp ht with rfl | ht
      · exact hfirst ▸ List.mem_cons_self
      · exact List.mem_cons_of_mem _ (ih others hothers ht)
  exact hall d.lines lines hread line h

/-- **What a dump gives is plain.** -/
theorem Reading.Gives.isPlain {r : Reading} {t : Triple} (h : r.Gives t) : t.IsPlain := by
  obtain ⟨line, ⟨lines, hread, hline⟩, hscan, _⟩ := h
  exact Dump.isPlain_scan
    (DumpFile.notMem_of_mem_lines (DumpFile.mem_lines_of_readLines hread hline)) hscan

theorem Database.IsFromDumps.isPlain {d : Database} (h : d.IsFromDumps) :
    ∀ row ∈ d.store.rows, row.triple.IsPlain := by
  intro row hrow
  obtain ⟨r, hr⟩ := h row hrow
  exact hr.isPlain

/-- An index that has been kept up holds nothing but rows from dumps. -/
theorem Upkeep.InOrder.isFromDumps {u : Upkeep} (h : u.InOrder) : u.index.IsFromDumps := by
  intro row hrow
  obtain ⟨r, _, _, hgives⟩ := (h.rows row).mp hrow
  exact ⟨r, hgives⟩

end GraphAnswers
