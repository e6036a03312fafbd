import GraphAnswers.Proofs.Elsewhere
import GraphAnswers.Server
/-!
# One index of a registry

What a registry does when it is asked for an index touches nothing that it keeps of others
(`Registry.leavesOthers_carryOut`), and depends on nothing but what it keeps of this one and on the
file of this one.  So two registries that keep the same of an index answer alike about it, on files
that are alike but for those of others (`Registry.Twins.carryOut`).
-/
namespace GraphAnswers

open FileTree

namespace Registry
variable {α : Type} {r r' r'' : Registry} {files files' : FileTree} {name path : String}

/-! ### The other indexes -/

/-- **Whether a registry has kept what it had of all indexes but one.** -/
structure LeavesOthers (name : String) (r r' : Registry) : Prop where
  settings : ∃ opened, r' = { r with opened }
  kept : ∀ other, other ≠ name → r'.opened.find? other = r.opened.find? other

theorem LeavesOthers.refl (name : String) (r : Registry) : LeavesOthers name r r :=
  ⟨⟨r.opened, rfl⟩, fun _ _ => rfl⟩

theorem LeavesOthers.trans (h : LeavesOthers name r r') (h' : LeavesOthers name r' r'') :
    LeavesOthers name r r'' where
  settings := by
    obtain ⟨opened, rfl⟩ := h.settings
    obtain ⟨opened', rfl⟩ := h'.settings
    exact ⟨opened', rfl⟩
  kept other hother := (h'.kept other hother).trans (h.kept other hother)

theorem leavesOthers_keep (r : Registry) (name : String) (x : OpenIndex) :
    LeavesOthers name r (r.keep name x) where
  settings := ⟨_, rfl⟩
  kept other hother := by
    unfold keep
    rw [SortedMap.find?_insert, if_neg hother]

theorem leavesOthers_close (r : Registry) (name : String) : LeavesOthers name r (r.close name) where
  settings := ⟨_, rfl⟩
  kept other hother := by
    unfold close
    rw [SortedMap.find?_erase, if_neg hother]

theorem leavesOthers_revisit (r : Registry) (files : FileTree) (name path : String)
    (x : OpenIndex) : LeavesOthers name r (r.revisit files name path x).2 := by
  unfold revisit
  split
  · exact .refl _ _
  · split
    · exact leavesOthers_keep _ _ _
    · exact leavesOthers_keep _ _ _

theorem leavesOthers_openNew (r : Registry) (files : FileTree) (name path : String) :
    LeavesOthers name r (r.openNew files name path).2 := by
  unfold openNew
  dsimp only
  split
  · exact leavesOthers_keep _ _ _
  · exact .refl _ _

theorem leavesOthers_get (r : Registry) (files : FileTree) (name : String) :
    LeavesOthers name r (r.get files name).2 := by
  unfold get
  split
  · exact .refl _ _
  split
  · split
    · exact leavesOthers_revisit _ _ _ _ _
    · exact leavesOthers_openNew _ _ _ _
  · exact leavesOthers_close _ _

theorem leavesOthers_consult (r : Registry) (files : FileTree) (name path : String)
    (x : OpenIndex) (inquiry : Inquiry α) :
    LeavesOthers name r (r.consult files name path x inquiry).2 := by
  unfold consult
  split
  · exact .refl _ _
  · exact .refl _ _
  · exact leavesOthers_keep _ _ _

/-- **An inquiry about one index leaves what is kept of others**, whether it succeeds or not. -/
theorem leavesOthers_carryOut (r : Registry) (files : FileTree) (name : String)
    (inquiry : Inquiry α) : LeavesOthers name r (r.carryOut files name inquiry).2 := by
  have hget := leavesOthers_get r files name
  unfold carryOut
  rcases hasked : r.get files name with ⟨_ | x, r'⟩
  · rw [hasked] at hget
    exact hget
  · rw [hasked] at hget
    exact hget.trans (leavesOthers_consult _ _ _ _ _ _)

end Registry

/-! ### The index itself -/

/-- **Whether the file at a path looks alike** in two trees, to whoever opens it as an index or has
opened it before. -/
structure FileTree.LooksAlike (path : String) (t u : FileTree) : Prop where
  isFile : u.isFile path = t.isFile path
  openIndex : u.openIndex path = t.openIndex path
  opened : ∀ file, t.openIndex path = .ok file → t.locate? path = some file.place
  content : ∀ file, t.locate? path = some file.place → u.contentOf? file = t.contentOf? file

theorem FileTree.Alike.looksAlike {others : Location → Prop} {t u : FileTree} {path : String}
    (h : Alike others t u) (hpath : LeadsElsewhere others t path)
    (hplain : path.startsWith "file:" = false) : LooksAlike path t u where
  isFile := h.isFile hpath
  openIndex := h.openIndex hpath hplain
  opened file hfile := by
    unfold FileTree.openIndex at hfile
    split at hfile
    · rename_i o ho
      cases hfile
      exact place_of_opening? hplain ho
    · cases hfile
  content file hfile := h.contentOf? (hpath file.place hfile)

/-- Whether the file that is held of an index is, or was, at a path. -/
def OpenIndex.HoldsAt (x : OpenIndex) (files : FileTree) (path : String) : Prop :=
  ∀ file, x.held = some file → files.locate? path = some file.place

namespace Registry
variable {α : Type} {r r' : Registry} {files files' : FileTree} {name path : String}
  {x : OpenIndex} {file : Handle}

/-- **Whether two registries keep the same of an index**, and if they hold its file, it is the one at
a path. -/
structure Twins (files : FileTree) (name path : String) (r r' : Registry) : Prop where
  settings : ∃ opened, r' = { r with opened }
  kept : r'.opened.find? name = r.opened.find? name
  held : ∀ x, r.opened.find? name = some x → x.HoldsAt files path

/-- What comes of asking two registries for an index: the same, if they go on being alike. -/
structure GivesAlike (files : FileTree) (name path : String)
    (a b : Except Failure OpenIndex × Registry) : Prop where
  outcome : b.1 = a.1
  registry : Twins files name path a.2 b.2
  given : ∀ x, a.1 = .ok x → x.HoldsAt files path

theorem Twins.root (h : Twins files name path r r') : r'.root = r.root := by
  obtain ⟨opened, rfl⟩ := h.settings
  rfl

theorem Twins.capacity (h : Twins files name path r r') : r'.capacity = r.capacity := by
  obtain ⟨opened, rfl⟩ := h.settings
  rfl

theorem Twins.patience (h : Twins files name path r r') : r'.patience = r.patience := by
  obtain ⟨opened, rfl⟩ := h.settings
  rfl

theorem Twins.keep (h : Twins files name path r r') (hx : x.HoldsAt files path) :
    Twins files name path (r.keep name x) (r'.keep name x) where
  settings := by
    obtain ⟨opened, rfl⟩ := h.settings
    exact ⟨_, rfl⟩
  kept := by
    unfold Registry.keep
    rw [SortedMap.find?_insert_self, SortedMap.find?_insert_self]
  held y hy := by
    unfold Registry.keep at hy
    rw [SortedMap.find?_insert_self] at hy
    cases hy
    exact hx

theorem Twins.close (h : Twins files name path r r') :
    Twins files name path (r.close name) (r'.close name) where
  settings := by
    obtain ⟨opened, rfl⟩ := h.settings
    exact ⟨_, rfl⟩
  kept := by
    unfold Registry.close
    rw [SortedMap.find?_erase, SortedMap.find?_erase, if_pos rfl, if_pos rfl]
  held y hy := by
    unfold Registry.close at hy
    rw [SortedMap.find?_erase, if_pos rfl] at hy
    cases hy

/-- What becomes of other indexes makes no difference. -/
theorem Twins.of_leavesOthers {other : String} {after : Registry}
    (h : Twins files name path r r') (hleaves : LeavesOthers other r after)
    (hne : name ≠ other) : Twins files name path after r' where
  settings := by
    obtain ⟨opened, rfl⟩ := h.settings
    obtain ⟨opened', rfl⟩ := hleaves.settings
    exact ⟨opened, rfl⟩
  kept := h.kept.trans (hleaves.kept name hne).symm
  held x hx := h.held x ((hleaves.kept name hne).symm.trans hx)

theorem Twins.error (h : Twins files name path r r') (failure : Failure) :
    GivesAlike files name path (.error failure, r) (.error failure, r') :=
  ⟨rfl, h, fun _ hx => by cases hx⟩

theorem Twins.ok (h : Twins files name path r r') (hx : x.HoldsAt files path) :
    GivesAlike files name path (.ok x, r.keep name x) (.ok x, r'.keep name x) :=
  ⟨rfl, h.keep hx, fun y hy => by cases hy; exact hx⟩

section Files
variable (hfiles : LooksAlike path files files')
include hfiles

theorem fileOf_alike (x : OpenIndex) : fileOf files' x path = fileOf files x path := by
  unfold fileOf
  rw [hfiles.openIndex]

theorem locate?_fileOf (hx : x.HoldsAt files path) (h : fileOf files x path = .ok file) :
    files.locate? path = some file.place := by
  unfold fileOf at h
  split at h
  · rename_i held hheld
    cases h
    exact hx file hheld
  · exact hfiles.opened file h

theorem readHeld_alike (hfile : files.locate? path = some file.place) (patience : Nat)
    (read : Database → Except Failure α) :
    files'.readHeld patience file read = files.readHeld patience file read := by
  unfold FileTree.readHeld
  rw [hfiles.content file hfile]

theorem Twins.revisit (h : Twins files name path r r') (hx : x.HoldsAt files path) :
    GivesAlike files name path (r.revisit files name path x)
      (r'.revisit files' name path x) := by
  unfold Registry.revisit
  rw [fileOf_alike hfiles]
  cases hfile : fileOf files x path with
  | error failure => exact h.error failure
  | ok file =>
    have hlocated := locate?_fileOf hfiles hx hfile
    have hheld : OpenIndex.HoldsAt { x with held := some file } files path := by
      rintro _ ⟨⟩
      exact hlocated
    dsimp only
    rw [h.patience, readHeld_alike hfiles hlocated]
    cases files.readHeld r.patience file Database.state with
    | error failure => exact (h.keep hheld).error failure
    | ok state =>
      dsimp only
      split
      · exact h.ok hheld
      · exact h.ok fun _ hnone => by cases hnone

theorem Twins.openNew (h : Twins files name path r r') :
    GivesAlike files name path (r.openNew files name path) (r'.openNew files' name path) := by
  unfold Registry.openNew
  rw [h.capacity, h.patience, hfiles.openIndex]
  cases hfile : files.openIndex path with
  | error failure => exact h.error failure
  | ok file =>
    have hlocated := hfiles.opened file hfile
    cases LookupCache.ofCapacity? r.capacity with
    | none => exact h.error .io
    | some cache =>
      simp only [bind, Except.bind, readHeld_alike hfiles hlocated]
      cases files.readHeld r.patience file Database.state with
      | error failure => exact h.error failure
      | ok state =>
        refine h.ok ?_
        rintro _ ⟨⟩
        exact hlocated

theorem Twins.get (h : Twins files name path r r') (hnamed : indexFile? r.root name = some path) :
    GivesAlike files name path (r.get files name) (r'.get files' name) := by
  unfold Registry.get
  rw [h.root, hnamed, h.kept]
  dsimp only
  rw [hfiles.isFile]
  split
  · split
    · rename_i x hx
      exact h.revisit hfiles (h.held x hx)
    · exact h.openNew hfiles
  · exact h.close.error _

theorem Twins.consult (h : Twins files name path r r') (hx : x.HoldsAt files path)
    (inquiry : Inquiry α) :
    (r'.consult files' name path x inquiry).1 = (r.consult files name path x inquiry).1 ∧
      Twins files name path (r.consult files name path x inquiry).2
        (r'.consult files' name path x inquiry).2 := by
  unfold Registry.consult
  rw [fileOf_alike hfiles]
  split
  · exact ⟨rfl, h⟩
  · exact ⟨rfl, h⟩
  · rename_i file _ hfile
    have hlocated := locate?_fileOf hfiles hx hfile
    have hindex : files'.index r.patience file = files.index r.patience file := by
      unfold FileTree.index
      simp only [readHeld_alike hfiles hlocated]
    rw [h.patience, hindex]
    refine ⟨rfl, h.keep ?_⟩
    rintro _ ⟨⟩
    exact hlocated

/-- **Registries that keep the same of an index answer alike about it**, and go on keeping the
same. -/
theorem Twins.carryOut (h : Twins files name path r r')
    (hnamed : indexFile? r.root name = some path) (inquiry : Inquiry α) :
    (r'.carryOut files' name inquiry).1 = (r.carryOut files name inquiry).1 ∧
      Twins files name path (r.carryOut files name inquiry).2
        (r'.carryOut files' name inquiry).2 := by
  have hget := h.get hfiles hnamed
  have hnamed' : indexFile? (r.get files name).2.root name = some path := by
    obtain ⟨opened, hopened⟩ := (leavesOthers_get r files name).settings
    rw [hopened]
    exact hnamed
  have hnamed'' : indexFile? (r'.get files' name).2.root name = some path := by
    rw [hget.registry.root]
    exact hnamed'
  unfold Registry.carryOut
  rcases hasked : r.get files name with ⟨outcome, s⟩
  rcases hasked' : r'.get files' name with ⟨outcome', s'⟩
  rw [hasked] at hget hnamed'
  rw [hasked'] at hget hnamed''
  obtain ⟨hout, hregistry, hgiven⟩ := hget
  cases hout
  cases outcome with
  | error failure => exact ⟨rfl, hregistry⟩
  | ok x =>
    dsimp only
    rw [hnamed', hnamed'', Option.getD_some]
    exact hregistry.consult hfiles (hgiven x rfl) inquiry

end Files
end Registry

end GraphAnswers
