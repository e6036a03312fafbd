import GraphAnswers.FileTree
import GraphAnswers.Proofs.SortedMap
/-!
# The index file at a path

Where a path leads is told by the directories alone.  Working on an index file makes no directory
and removes none, so afterwards each path leads to the place that it led to before, each index
file is opened as before (`opening?_set`), and what the operation left is found where the index
was (`Holds.onIndex`).
-/
namespace GraphAnswers.FileTree

/-! ### Places -/

/-- Whether two trees have the same directories. -/
def SameDirectories (t u : FileTree) : Prop :=
  ∀ place, u.isDirectoryAt place = t.isDirectoryAt place

theorem SameDirectories.refl (t : FileTree) : SameDirectories t t := fun _ => rfl

theorem SameDirectories.trans {t u v : FileTree} (h : SameDirectories t u)
    (h' : SameDirectories u v) : SameDirectories t v := fun place => (h' place).trans (h place)

theorem SameDirectories.follow {t u : FileTree} (h : SameDirectories t u) (place : Location)
    (names : List String) : u.follow place names = t.follow place names := by
  induction names generalizing place with
  | nil => rfl
  | cons name rest ih =>
    unfold FileTree.follow
    rw [h place, ih, ih, ih]

theorem SameDirectories.locate? {t u : FileTree} (h : SameDirectories t u) (path : String) :
    u.locate? path = t.locate? path := by
  unfold FileTree.locate?
  split
  · rfl
  · exact h.follow [] _

theorem SameDirectories.isDirectory {t u : FileTree} (h : SameDirectories t u) (path : String) :
    u.isDirectory path = t.isDirectory path := by
  unfold FileTree.isDirectory FileTree.find?
  split
  · rfl
  · rw [h.follow]
    cases t.follow [] (Text.pathSteps path) with
    | none => rfl
    | some place => exact h place

theorem node?_set {t : FileTree} {place : Location} (hplace : place ≠ []) (node : Node)
    (other : Location) :
    (t.set place node).node? other = if other = place then some node else t.node? other := by
  unfold node? set
  rw [SortedMap.find?_insert]
  by_cases h : other = place
  · subst h
    simp [hplace]
  · simp [h]

/-- Whether a file is, or can be, at a place. -/
def hasPlace (t : FileTree) (place : Location) : Bool :=
  match t.node? place with
  | some (.file _) => true
  | some _ => false
  | none => place.all isAllowedName

theorem place?_fst (t : FileTree) (path : String) :
    (t.place? path).map Prod.fst = (t.locate? path).filter t.hasPlace := by
  unfold place?
  cases t.locate? path with
  | none => rfl
  | some place =>
    simp only [Option.filter_some, hasPlace]
    rcases Option.eq_none_or_eq_some (t.node? place) with hnode | ⟨node, hnode⟩
    · by_cases hall : place.all isAllowedName = true <;> simp [hnode, hall]
    · cases node <;> simp [hnode]

theorem isDirectoryAt_of_hasPlace {t : FileTree} {place : Location} (h : t.hasPlace place = true) :
    t.isDirectoryAt place = false := by
  unfold hasPlace at h
  unfold isDirectoryAt
  split at h
  · rename_i hnode
    rw [hnode]
    rfl
  · cases h
  · rename_i hnode
    rw [hnode]
    rfl

theorem ne_nil_of_hasPlace {t : FileTree} {place : Location} (h : t.hasPlace place = true) :
    place ≠ [] := by
  rintro rfl
  cases isDirectoryAt_of_hasPlace h

/-- A file in its place is no directory, and was none. -/
theorem sameDirectories_set {t : FileTree} {place : Location} (h : t.hasPlace place = true)
    (c : Content) : SameDirectories t (t.set place (.file c)) := by
  intro other
  unfold isDirectoryAt
  rw [node?_set (ne_nil_of_hasPlace h)]
  by_cases hother : other = place
  · subst hother
    rw [if_pos rfl]
    exact (isDirectoryAt_of_hasPlace h).symm
  · rw [if_neg hother]

/-! ### Opening -/

/-- The path of the file that is meant by the path or URI of an index, with the options of the
URI. -/
def meant? (path : String) : Option (String × List (String × String)) :=
  if path.startsWith "file:" then
    (Text.FileUri.ofList? (path.toList.drop 5)).map fun uri => (uri.path, uri.options)
  else some (path, [])

/-- How an index file at a place is opened. -/
def openingAt? (options : List (String × String)) (place : Location) : Option Opening :=
  if maxIndexPath < (Text.join "/" place).utf8ByteSize then none
  else options.foldlM Opening.withOption { place }

theorem opening?_eq (t : FileTree) (path : String) : t.opening? path =
    (meant? path).bind fun m => ((t.place? m.1).map Prod.fst).bind (openingAt? m.2) := by
  unfold opening? meant?
  split
  · cases Text.FileUri.ofList? (path.toList.drop 5) with
    | none => rfl
    | some uri =>
      show Option.bind (t.place? uri.path) _ = Option.bind (Option.map _ (t.place? uri.path)) _
      cases t.place? uri.path <;> rfl
  · show Option.bind (t.place? path) _ = Option.bind (Option.map _ (t.place? path)) _
    cases t.place? path <;> rfl

/-- An index file is opened as before, whatever was put into one. -/
theorem opening?_set {t : FileTree} {place : Location} (h : t.hasPlace place = true) (c : Content)
    (path : String) : (t.set place (.file c)).opening? path = t.opening? path := by
  have hsame : (t.set place (.file c)).hasPlace = t.hasPlace := by
    funext other
    unfold hasPlace
    rw [node?_set (ne_nil_of_hasPlace h)]
    by_cases hother : other = place
    · subst hother
      rw [if_pos rfl]
      exact h.symm
    · rw [if_neg hother]
  simp only [opening?_eq, place?_fst, (sameDirectories_set h c).locate?, hsame]

theorem Opening.withOption_place {o o' : Opening} {option : String × String}
    (h : o.withOption option = some o') : o'.place = o.place := by
  unfold Opening.withOption at h
  split at h
  case h_4 => cases h
  case h_5 | h_6 =>
    split at h <;> cases h
    rfl
  all_goals
    cases h
    rfl

theorem Opening.foldlM_place {o o' : Opening} {options : List (String × String)}
    (h : options.foldlM Opening.withOption o = some o') : o'.place = o.place := by
  induction options generalizing o with
  | nil =>
    cases h
    rfl
  | cons option options ih =>
    rw [List.foldlM_cons] at h
    obtain ⟨next, hnext, h⟩ := Option.bind_eq_some_iff.mp h
    rw [ih h, Opening.withOption_place hnext]

/-- The place of an index file is one for a file. -/
theorem hasPlace_of_opening? {t : FileTree} {path : String} {o : Opening}
    (h : t.opening? path = some o) : t.hasPlace o.place = true := by
  rw [opening?_eq] at h
  obtain ⟨m, _, h⟩ := Option.bind_eq_some_iff.mp h
  obtain ⟨place, hplace, h⟩ := Option.bind_eq_some_iff.mp h
  unfold openingAt? at h
  split at h
  · cases h
  · rw [Opening.foldlM_place h]
    rw [place?_fst] at hplace
    exact (Option.filter_eq_some_iff.mp hplace).2

/-! ### What an index file holds -/

/-- What the file at a place holds. -/
def content? (t : FileTree) (place : Location) : Option Content :=
  match t.node? place with
  | some (.file c) => some c
  | _ => none

/-- The file that is there now is the last of its place. -/
theorem contentOf?_handle (t : FileTree) (place : Location) :
    t.contentOf? (t.handle place) = t.content? place := by
  unfold contentOf? handle contentsAt content?
  rw [List.getElem?_append_right (Nat.le_refl _), Nat.sub_self]
  cases t.node? place with
  | none => rfl
  | some node => cases node <;> rfl

theorem databaseAt?_eq (t : FileTree) (place : Location) :
    t.databaseAt? place = ((t.content? place).getD (.octets [])).database? := by
  unfold databaseAt?
  rw [contentOf?_handle]

theorem content?_set {t : FileTree} {place : Location} (hplace : place ≠ []) (c : Content) :
    (t.set place (.file c)).content? place = some c := by
  unfold content?
  rw [node?_set hplace, if_pos rfl]

theorem database?_eq_some_iff {t : FileTree} {path : String} {d : Database} :
    t.database? path = some d ↔
      ∃ o, t.opening? path = some o ∧ t.databaseAt? o.place = some d :=
  Option.bind_eq_some_iff

/-- What is put into an index file is found there. -/
theorem database?_set {t : FileTree} {path : String} {o : Opening} (h : t.opening? path = some o)
    (d : Database) : (t.set o.place (.file (.index d))).database? path = some d := by
  have hplace := hasPlace_of_opening? h
  rw [database?_eq_some_iff]
  refine ⟨o, by rw [opening?_set hplace, h], ?_⟩
  rw [databaseAt?_eq, content?_set (ne_nil_of_hasPlace hplace)]
  rfl

variable {α : Type} {t t' : FileTree} {path : String} {d : Database}
  {operation : Database.Operation α} {outcome : Except Failure α}

/-- An operation on an index file is carried out, or refused and then leaves the index as it was. -/
theorem onIndex_cases (hd : t.database? path = some d)
    (h : t.onIndex path operation = (outcome, t')) :
    (outcome = (operation d).1 ∧ t'.database? path = some (operation d).2) ∨
      (outcome = .error .database ∧ t'.database? path = some d) := by
  obtain ⟨o, ho, hplace⟩ := database?_eq_some_iff.mp hd
  unfold onIndex at h
  simp only [ho, hplace] at h
  split at h
  · cases h
    exact .inr ⟨rfl, hd⟩
  · split at h
    · cases h
      exact .inr ⟨rfl, database?_set ho d⟩
    · split at h
      · cases h
        exact .inr ⟨rfl, hd⟩
      · cases h
        exact .inl ⟨rfl, database?_set ho _⟩

/-- **An index file that can be changed**: how it is opened, and what it holds. -/
structure Holds (t : FileTree) (path : String) (o : Opening) (d : Database) : Prop where
  opened : t.opening? path = some o
  changes : o.changes = true
  hasRoom : hasRoomForJournal o.place = true
  held : (t.content? o.place).bind Content.database? = some d

variable {o : Opening}

theorem Holds.hasPlace (h : t.Holds path o d) : t.hasPlace o.place = true :=
  hasPlace_of_opening? h.opened

theorem Holds.content (h : t.Holds path o d) :
    ∃ c, t.content? o.place = some c ∧ c.database? = some d :=
  Option.bind_eq_some_iff.mp h.held

theorem Holds.databaseAt? (h : t.Holds path o d) : t.databaseAt? o.place = some d := by
  obtain ⟨c, hc, hcd⟩ := h.content
  rw [databaseAt?_eq, hc]
  exact hcd

theorem Holds.database? (h : t.Holds path o d) : t.database? path = some d :=
  database?_eq_some_iff.mpr ⟨o, h.opened, h.databaseAt?⟩

theorem holds_set (ho : t.opening? path = some o) (hc : o.changes = true)
    (hr : hasRoomForJournal o.place = true) (d : Database) :
    (t.set o.place (.file (.index d))).Holds path o d := by
  have hplace := hasPlace_of_opening? ho
  refine ⟨by rw [opening?_set hplace, ho], hc, hr, ?_⟩
  rw [content?_set (ne_nil_of_hasPlace hplace)]
  rfl

/-- An operation is carried out on a file that can be changed, or made. -/
theorem onIndex_eq (ho : t.opening? path = some o) (hd : t.databaseAt? o.place = some d)
    (hm : o.makes = true ∨ (t.node? o.place).isSome = true) (hc : o.changes = true)
    (hr : hasRoomForJournal o.place = true) (operation : Database.Operation α) :
    t.onIndex path operation =
      ((operation d).1, t.set o.place (.file (.index (operation d).2))) := by
  have hmade : (!o.makes && (t.node? o.place).isNone) = false := by
    rcases hm with hm | hm
    · simp [hm]
    · simp [Option.isNone_eq_false_iff.mpr hm]
  unfold onIndex
  simp [ho, hd, hmade, hr, hc]

/-- **An operation on such a file is carried out.** -/
theorem Holds.onIndex_eq (h : t.Holds path o d) (operation : Database.Operation α) :
    t.onIndex path operation =
      ((operation d).1, t.set o.place (.file (.index (operation d).2))) := by
  obtain ⟨c, hc, _⟩ := h.content
  have hthere : (t.node? o.place).isSome = true := by
    unfold content? at hc
    split at hc
    · rename_i hnode
      rw [hnode]
      rfl
    · cases hc
  exact FileTree.onIndex_eq h.opened h.databaseAt? (.inr hthere) h.changes h.hasRoom operation

theorem Holds.set (h : t.Holds path o d) (d' : Database) :
    (t.set o.place (.file (.index d'))).Holds path o d' :=
  holds_set h.opened h.changes h.hasRoom d'

theorem set_set (t : FileTree) (place : Location) (a b : Node) :
    (t.set place a).set place b = t.set place b := by
  unfold FileTree.set
  rw [SortedMap.insert_insert]

/-- Unless it is an empty file, an index file holds an index. -/
theorem Holds.node? (h : t.Holds path o d) (hd : d ≠ .empty) :
    t.node? o.place = some (.file (.index d)) := by
  obtain ⟨c, hc, hcd⟩ := h.content
  unfold content? at hc
  split at hc
  · rename_i c' hnode
    cases hc
    cases c with
    | octets octets =>
      cases octets with
      | nil =>
        cases hcd
        exact absurd rfl hd
      | cons octet rest => cases hcd
    | index d' =>
      cases hcd
      exact hnode
  · cases hc

/-- What is there is set without effect. -/
theorem Holds.set_self (h : t.Holds path o d) (hd : d ≠ .empty) :
    t.set o.place (.file (.index d)) = t := by
  have hfind : t.nodes.find? o.place = some (.file (.index d)) := by
    have hnode := h.node? hd
    unfold FileTree.node? at hnode
    rwa [if_neg (by simpa using ne_nil_of_hasPlace h.hasPlace)] at hnode
  unfold FileTree.set
  rw [SortedMap.insert_of_find? hfind]

/-- When an operation succeeds. -/
theorem onIndex_ok {a : α} (h : t.onIndex path operation = (.ok a, t')) :
    ∃ o d, t.opening? path = some o ∧ t.databaseAt? o.place = some d ∧
      hasRoomForJournal o.place = true ∧ (o.changes = true ∨ (operation d).2 = d) ∧
      (operation d).1 = .ok a ∧ t' = t.set o.place (.file (.index (operation d).2)) := by
  unfold onIndex at h
  split at h
  · cases h
  · rename_i o ho
    split at h
    · cases h
    · split at h
      · cases h
      · rename_i d hd
        dsimp only at h
        split at h
        · cases h
        · rename_i hroom
          split at h
          · cases h
          · rename_i hchanges
            obtain ⟨h1, rfl⟩ := Prod.mk.inj h
            refine ⟨o, d, ho, hd, by simpa using hroom, ?_, h1, rfl⟩
            cases hc : o.changes with
            | true => exact .inl rfl
            | false =>
              rw [hc] at hchanges
              exact .inr (by simpa using hchanges)

/-- What a path leads to is what is at its place, unless the path leads out of the tree. -/
theorem find?_cases (path : String) :
    (∀ t u : FileTree, t.locate? path = none ∧ t.find? path = u.find? path) ∨
    ∀ t : FileTree, t.find? path = (t.locate? path).bind t.node? := by
  unfold find? locate?
  split
  · exact .inl fun _ _ => ⟨rfl, rfl⟩
  · exact .inr fun _ => rfl

/-- The same for whether it leads to a file. -/
theorem isFile_cases (path : String) :
    (∀ t u : FileTree, t.locate? path = none ∧ t.isFile path = u.isFile path) ∨
    ∀ t : FileTree, t.isFile path = ((t.locate? path).bind t.content?).isSome := by
  unfold isFile
  rcases find?_cases path with hout | hin
  · refine .inl fun t u => ⟨(hout t u).1, ?_⟩
    rw [(hout t u).2]
  · refine .inr fun t => ?_
    rw [hin]
    cases t.locate? path with
    | none => rfl
    | some place =>
      rw [Option.bind_some, Option.bind_some]
      unfold content?
      cases t.node? place with
      | none => rfl
      | some node => cases node <;> rfl

/-- Where a file is, a path that leads there leads to a file. -/
theorem isFile_of_content? {place : Location} {c : Content} (hlocated : t.locate? path = some place)
    (hc : t.content? place = some c) : t.isFile path = true := by
  rcases isFile_cases path with hout | hin
  · rw [(hout t t).1] at hlocated
    cases hlocated
  · rw [hin, hlocated, Option.bind_some, hc]
    rfl

theorem content?_set_of_ne {place other : Location} (hplace : place ≠ []) (hne : other ≠ place)
    (node : Node) : (t.set place node).content? other = t.content? other := by
  unfold content?
  rw [node?_set hplace, if_neg hne]

/-- An operation that makes the file at a path makes it an index there. -/
theorem created_of_onIndex {a : α} (hbefore : t.isFile path = false)
    (h : t.onIndex path operation = (.ok a, t')) (hafter : t'.isFile path = true)
    (hchanged : (operation .empty).2 ≠ .empty) :
    ∃ o, t'.Holds path o (operation .empty).2 ∧ t'.locate? path = some o.place := by
  rcases isFile_cases path with hout | hin
  · rw [(hout t' t).2, hbefore] at hafter
    cases hafter
  obtain ⟨o, before, ho, hd, hroom, hchanges, _, rfl⟩ := onIndex_ok h
  have hplace := hasPlace_of_opening? ho
  have hsame := (sameDirectories_set hplace (.index (operation before).2)).locate? path
  rw [hin] at hbefore hafter
  obtain ⟨c, hc⟩ := Option.isSome_iff_exists.mp hafter
  obtain ⟨place, hlocated, hc⟩ := Option.bind_eq_some_iff.mp hc
  have hnone : t.content? place = none := by
    rw [← hsame, hlocated] at hbefore
    simpa using hbefore
  -- the only place that has become a file is that of the index
  obtain rfl : place = o.place := by
    by_cases hne : place = o.place
    · exact hne
    · rw [content?_set_of_ne (ne_nil_of_hasPlace hplace) hne, hnone] at hc
      cases hc
  rw [databaseAt?_eq, hnone] at hd
  cases hd
  exact ⟨o, holds_set ho (hchanges.resolve_right hchanged) hroom _, hlocated⟩

theorem place?_eq_some {place : Location} {c : Option Content}
    (h : t.place? path = some (place, c)) :
    t.locate? path = some place ∧ t.hasPlace place = true := by
  have hfst := t.place?_fst path
  rw [h] at hfst
  exact Option.filter_eq_some_iff.mp hfst.symm

/-- Removes the file at a place. -/
def removeAt (t : FileTree) (place : Location) : FileTree where
  nodes := t.nodes.erase place
  removed := t.removed.insert place (t.contentsAt place)

theorem node?_removeAt (t : FileTree) {place : Location} (hplace : place ≠ []) (other : Location) :
    (t.removeAt place).node? other = if other = place then none else t.node? other := by
  unfold FileTree.node? removeAt
  rw [SortedMap.find?_erase]
  by_cases hother : other = place
  · subst hother
    simp [hplace]
  · simp [hother]

theorem sameDirectories_removeAt {place : Location} (hplace : t.hasPlace place = true) :
    SameDirectories t (t.removeAt place) := by
  intro other
  unfold isDirectoryAt
  rw [node?_removeAt t (ne_nil_of_hasPlace hplace)]
  by_cases hother : other = place
  · subst hother
    rw [if_pos rfl]
    exact (isDirectoryAt_of_hasPlace hplace).symm
  · rw [if_neg hother]

theorem remove_eq (t : FileTree) (path : String) : t.remove path =
    match t.place? path with
    | some (place, some _) => .ok (t.removeAt place)
    | _ => .error .io :=
  rfl

/-- A file that was removed is gone. -/
theorem isFile_remove (h : t.remove path = .ok t') : t'.isFile path = false := by
  rw [remove_eq] at h
  split at h
  · rename_i place c hplace
    cases h
    obtain ⟨hlocated, hhas⟩ := place?_eq_some hplace
    rcases isFile_cases path with hout | hin
    · rw [(hout t t).1] at hlocated
      cases hlocated
    · rw [hin, (sameDirectories_removeAt hhas).locate?, hlocated, Option.bind_some]
      unfold content?
      rw [node?_removeAt t (ne_nil_of_hasPlace hhas), if_pos rfl]
      rfl
  · cases h

section Elsewhere

variable {other : String} {octets : List UInt8}

/-- What a file elsewhere holds makes no difference to an index. -/
theorem Holds.write (h : t.Holds path o d) (hlocated : t.locate? path = some o.place)
    (hw : t.write other octets = .ok t') (hne : t.locate? other ≠ t.locate? path) :
    t'.Holds path o d ∧ t'.locate? path = some o.place ∧ t'.handle o.place = t.handle o.place := by
  unfold FileTree.write at hw
  split at hw
  · rename_i place c hplace
    cases hw
    obtain ⟨hother, hhas⟩ := place?_eq_some hplace
    have hdifferent : o.place ≠ place := by
      rintro rfl
      exact hne (hother.trans hlocated.symm)
    refine ⟨⟨by rw [opening?_set hhas, h.opened], h.changes, h.hasRoom, ?_⟩, ?_, rfl⟩
    · rw [content?_set_of_ne (ne_nil_of_hasPlace hhas) hdifferent]
      exact h.held
    · rw [(sameDirectories_set hhas _).locate?, hlocated]
  · cases hw

/-- Nor does it put a file where there is none. -/
theorem isFile_write (h : t.isFile path = false) (hw : t.write other octets = .ok t')
    (hne : t.locate? other ≠ t.locate? path) : t'.isFile path = false := by
  unfold FileTree.write at hw
  split at hw
  · rename_i place c hplace
    cases hw
    obtain ⟨hother, hhas⟩ := place?_eq_some hplace
    rcases isFile_cases path with hout | hin
    · rw [(hout _ t).2, h]
    · rw [hin] at h ⊢
      rw [(sameDirectories_set hhas _).locate?]
      cases hpath : t.locate? path with
      | none => rfl
      | some p =>
        have hdifferent : p ≠ place := by
          rintro rfl
          exact hne (hother.trans hpath.symm)
        rw [hpath] at h
        rw [Option.bind_some, content?_set_of_ne (ne_nil_of_hasPlace hhas) hdifferent]
        exact h
  · cases hw

end Elsewhere

end GraphAnswers.FileTree
