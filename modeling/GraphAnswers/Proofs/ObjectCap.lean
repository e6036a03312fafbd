import GraphAnswers.Proofs.ScannedParts
/-!
# Objects that are cut off

The parts of an object are joined until a cap is reached, so a smaller cap keeps the first of the
parts that a greater one keeps (`Dump.IsCut.kept_of_le`), and only the last of them goes beyond it.
Whether a line gives a triple, and its subject and predicate, do not depend on the cap
(`Dump.cap_leaves_out_last`).
-/
namespace GraphAnswers

open Text

namespace Text

/-- The number of bytes of a text is the one that the text tells. -/
theorem byteLength_eq (cs : List Char) : byteLength cs = (String.ofList cs).utf8ByteSize := by
  induction cs with
  | nil => rfl
  | cons c cs ih =>
    have hsplit : String.ofList (c :: cs) = String.singleton c ++ String.ofList cs := by
      rw [← String.toList_inj]
      simp
    rw [hsplit, String.utf8ByteSize_append, String.utf8ByteSize_singleton, ← ih]
    rfl

theorem byteLength_mono {cs ds : List Char} (h : cs <+: ds) :
    byteLength cs ≤ byteLength ds := by
  obtain ⟨more, rfl⟩ := h
  rw [byteLength_append]
  exact Nat.le_add_right _ _

end Text

namespace Dump

variable {cap m M : Nat} {parts kept front rest few many : List (List Char)} {part : List Char}

/-! ### Parts with spaces between them -/

/-- Parts joined by spaces. -/
def spaced (parts : List (List Char)) : List Char := List.intercalate [' '] parts

theorem spaced_append (hfront : front ≠ []) (hrest : rest ≠ []) :
    spaced (front ++ rest) = spaced front ++ ' ' :: spaced rest := by
  unfold spaced
  induction front with
  | nil => exact absurd rfl hfront
  | cons part front ih =>
    rw [List.cons_append, List.intercalate_cons_of_ne_nil (by simp [hrest])]
    cases front with
    | nil => simp
    | cons next front =>
      rw [ih (List.cons_ne_nil _ _), List.intercalate_cons_of_ne_nil (List.cons_ne_nil _ _)]
      simp

theorem spaced_ne_nil (hparts : parts ≠ []) (h : ∀ part ∈ parts, part ≠ []) : spaced parts ≠ [] := by
  obtain ⟨part, rest, rfl⟩ := List.exists_cons_of_ne_nil hparts
  have hpart := h part List.mem_cons_self
  by_cases hrest : rest = []
  · subst hrest
    simpa [spaced] using hpart
  · rw [← List.singleton_append, spaced_append (List.cons_ne_nil _ _) hrest]
    simp

/-- The first of some parts make up the beginning of all of them. -/
theorem spaced_mono (h : few <+: many) : spaced few <+: spaced many := by
  obtain ⟨more, rfl⟩ := h
  by_cases hfew : few = []
  · subst hfew
    exact List.nil_prefix
  by_cases hmore : more = []
  · simp [hmore]
  · rw [spaced_append hfew hmore]
    exact List.prefix_append _ _

/-! ### The cap -/

/-- **Where a cap cuts parts off.**  The first of them are kept.  Without the last one that is kept
the cap is not reached; with it the cap is, if anything is missing. -/
structure IsCut (cap : Nat) (parts kept : List (List Char)) : Prop where
  first : kept <+: parts
  below : byteLength (spaced kept.dropLast) < cap
  reached : kept ≠ parts → cap ≤ byteLength (spaced kept)

/-- Joining goes on with a part exactly as long as the cap is not reached. -/
theorem joinUpTo_spaced (front : List (List Char)) (hne : ∀ part ∈ front ++ rest, part ≠ [])
    (hbelow : byteLength (spaced front.dropLast) < cap) :
    ∃ kept, IsCut cap (front ++ rest) kept ∧ joinUpTo cap (spaced front) rest = spaced kept := by
  induction rest generalizing front with
  | nil =>
    rw [List.append_nil]
    exact ⟨front, ⟨List.prefix_rfl, hbelow, fun hdiffers => absurd rfl hdiffers⟩, rfl⟩
  | cons part rest ih =>
    unfold joinUpTo
    split
    · rename_i hreached
      exact ⟨front, ⟨List.prefix_append _ _, hbelow, fun _ => hreached⟩, rfl⟩
    · rename_i hshort
      -- no space stands in front of the first part: only there is nothing joined yet
      have hnext : (if (spaced front).isEmpty then part else spaced front ++ ' ' :: part) =
          spaced (front ++ [part]) := by
        by_cases hfront : front = []
        · subst hfront
          simp [spaced]
        · have hsome := spaced_ne_nil hfront fun p hp => hne p (List.mem_append_left _ hp)
          rw [if_neg (by simpa using hsome), spaced_append hfront (List.cons_ne_nil _ _)]
          simp [spaced]
      have hsplit : front ++ part :: rest = (front ++ [part]) ++ rest := by simp
      rw [hnext, hsplit]
      refine ih (front ++ [part]) (hsplit ▸ hne) ?_
      rw [List.dropLast_concat]
      exact Nat.not_le.mp hshort

/-- **A cap cuts an object off.** -/
theorem exists_isCut (hcap : 1 ≤ cap) (line : String) :
    ∃ kept, IsCut cap (objectParts line) kept ∧ objectText cap line = spaced kept :=
  joinUpTo_spaced [] (fun _ hp => ne_nil_of_mem_objectParts hp) hcap

namespace IsCut

/-- Something is kept, if there is something. -/
theorem kept_ne_nil (h : IsCut cap parts kept) (hparts : parts ≠ []) : kept ≠ [] := by
  rintro rfl
  have hreached := h.reached (Ne.symm hparts)
  exact absurd h.below (Nat.not_lt.mpr hreached)

/-- **A smaller cap keeps the first of what a greater one keeps.** -/
theorem kept_of_le (hfew : IsCut m parts few) (hmany : IsCut M parts many) (hle : m ≤ M) :
    few <+: many := by
  -- both keep the first of the same parts, so that one of them keeps the first of the other's
  rcases List.prefix_or_prefix_of_prefix hfew.first hmany.first with h | h
  · exact h
  by_contra hnot
  obtain ⟨more, rfl⟩ := h
  have hmore : more ≠ [] := by
    rintro rfl
    exact hnot (by simp)
  have hmissing : many ≠ parts := by
    rintro rfl
    exact hnot hfew.first
  -- the greater cap is reached before the last part that the smaller one keeps
  have hreached := hmany.reached hmissing
  have hbelow := hfew.below
  rw [List.dropLast_append_of_ne_nil hmore] at hbelow
  have hlength : byteLength (spaced many) ≤ byteLength (spaced (many ++ more.dropLast)) :=
    byteLength_mono (spaced_mono (List.prefix_append _ _))
  omega

/-- If a greater cap keeps more, the smaller one is reached. -/
theorem reached_of_ne (hfew : IsCut m parts few) (hmany : IsCut M parts many) (hle : m ≤ M)
    (hdiffers : spaced few ≠ spaced many) : m ≤ byteLength (spaced few) := by
  refine hfew.reached ?_
  rintro rfl
  have hsame : many = few := hmany.first.eq_of_length_le (hfew.kept_of_le hmany hle).length_le
  exact hdiffers (congrArg spaced hsame.symm)

end IsCut

/-! ### Lines -/

variable {line : String} {t T : Triple}

/-- Whether a line gives a triple does not depend on the cap, and neither do its subject and its
predicate. -/
theorem scan_of_scan (M : Nat) (h : scan m line = some t) :
    ∃ T, scan M line = some T ∧ t.subject = T.subject ∧ t.predicate = T.predicate := by
  obtain ⟨hopens, _, _, _, _, hparts, rfl⟩ := scan_eq_some_iff.mp h
  exact ⟨_, scan_of_parts hopens hparts, rfl, rfl⟩

theorem object_of_scan (h : scan cap line = some t) (htype : t.predicate ≠ Field.type) :
    t.object = String.ofList (objectText cap line) := by
  obtain ⟨_, _, _, _, _, hparts, rfl⟩ := scan_eq_some_iff.mp h
  rw [objectText_eq hparts, object_tripleOf]
  exact if_neg htype

/-- **A cap leaves out nothing but whole parts at the end.**  Of two caps the smaller one gives a
triple where the greater one does, with the same subject and predicate.  Unless it is the name of a
type, the object that it gives is made of the first parts of what the greater cap gives.  Without the
last of these it is shorter than the cap, and if anything is left out it is at least as long. -/
theorem cap_leaves_out_last (hm : 1 ≤ m) (hle : m ≤ M) (line : String) :
    ((scan m line).isSome ↔ (scan M line).isSome) ∧
    ∀ t T, scan m line = some t → scan M line = some T →
      t.subject = T.subject ∧ t.predicate = T.predicate ∧
      (t.predicate ≠ Field.type →
        t.object.toList <+: T.object.toList ∧
        (t.object ≠ T.object → m ≤ t.object.utf8ByteSize) ∧
        ∃ few many, few ≠ [] ∧ few <+: many ∧ many <+: objectParts line ∧
          t.object = String.ofList (spaced few) ∧ T.object = String.ofList (spaced many) ∧
          (String.ofList (spaced few.dropLast)).utf8ByteSize < m) := by
  refine ⟨?_, fun t T ht hT => ?_⟩
  · rw [Option.isSome_iff_exists, Option.isSome_iff_exists]
    exact ⟨fun ⟨_, ht⟩ => (scan_of_scan M ht).imp fun _ h => h.1,
      fun ⟨_, hT⟩ => (scan_of_scan m hT).imp fun _ h => h.1⟩
  obtain ⟨T', hT', hsubject, hpredicate⟩ := scan_of_scan M ht
  obtain rfl : T' = T := Option.some.inj (hT'.symm.trans hT)
  refine ⟨hsubject, hpredicate, fun htype => ?_⟩
  obtain ⟨few, hfew, hless⟩ := exists_isCut hm line
  obtain ⟨many, hmany, hmore⟩ := exists_isCut (hm.trans hle) line
  have htext := object_of_scan ht htype
  have hText := object_of_scan hT (hpredicate ▸ htype)
  rw [hless] at htext
  rw [hmore] at hText
  have hfirst := hfew.kept_of_le hmany hle
  refine ⟨?_, fun hdiffers => ?_, few, many, hfew.kept_ne_nil (objectParts_ne_nil ht), hfirst,
    hmany.first, htext, hText, ?_⟩
  · rw [htext, hText, String.toList_ofList, String.toList_ofList]
    exact spaced_mono hfirst
  · rw [htext, ← byteLength_eq]
    refine hfew.reached_of_ne hmany hle fun hsame => hdiffers ?_
    rw [htext, hText, hsame]
  · rw [← byteLength_eq]
    exact hfew.below

/-- A cap that the first part reaches with its four bytes, and one that the second part does not
reach. -/
theorem cap_leaves_out_rest :
    scan 4 "m.1 d éé \"a b\"@en x y ." = some ⟨"m.1", "d", "éé"⟩ ∧
      scan 13 "m.1 d éé \"a b\"@en x y ." = some ⟨"m.1", "d", "éé a b @en x"⟩ ∧
      4 ≤ "éé".utf8ByteSize := by
  have hfew : scan 4 "m.1 d éé \"a b\"@en x y ." = some ⟨"m.1", "d", "éé"⟩ := by decide +kernel
  have hmany : scan 13 "m.1 d éé \"a b\"@en x y ." = some ⟨"m.1", "d", "éé a b @en x"⟩ := by
    decide +kernel
  obtain ⟨_, hcut⟩ := cap_leaves_out_last (by decide) (by decide : 4 ≤ 13)
    "m.1 d éé \"a b\"@en x y ."
  obtain ⟨_, _, hobject⟩ := hcut _ _ hfew hmany
  obtain ⟨_, hlong, _⟩ := hobject (by decide)
  exact ⟨hfew, hmany, hlong (by decide)⟩

end Dump

end GraphAnswers
