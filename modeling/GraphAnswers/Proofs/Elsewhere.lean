import GraphAnswers.Proofs.IndexPlaces
/-!
# Files elsewhere

What is done with one file depends on the directories and on what is, and was, at its place.  So it
comes to the same on two trees that differ only at other places (`FileTree.Alike`), and leaves them
so; and what is done with a file at one of these other places leaves a tree like what it was.
-/
namespace GraphAnswers.FileTree

/-- **Whether two trees are alike** but for some places: they have the same directories, and
everywhere else the same files, present and removed. -/
structure Alike (others : Location → Prop) (t u : FileTree) : Prop where
  directories : SameDirectories t u
  node? : ∀ place, ¬others place → u.node? place = t.node? place
  removed : ∀ place, ¬others place → u.removed.find? place = t.removed.find? place

section Comparing
variable {others : Location → Prop} {t u v : FileTree} {place : Location} {path : String}

theorem Alike.refl (others : Location → Prop) (t : FileTree) : Alike others t t :=
  ⟨.refl t, fun _ _ => rfl, fun _ _ => rfl⟩

theorem Alike.symm (h : Alike others t u) : Alike others u t where
  directories place := (h.directories place).symm
  node? place hplace := (h.node? place hplace).symm
  removed place hplace := (h.removed place hplace).symm

theorem Alike.trans (h : Alike others t u) (h' : Alike others u v) : Alike others t v where
  directories := h.directories.trans h'.directories
  node? place hplace := (h'.node? place hplace).trans (h.node? place hplace)
  removed place hplace := (h'.removed place hplace).trans (h.removed place hplace)

/-! ### What is found at one place -/

theorem Alike.contentsAt (h : Alike others t u) (hplace : ¬others place) :
    u.contentsAt place = t.contentsAt place := by
  unfold FileTree.contentsAt
  rw [h.node? place hplace, h.removed place hplace]

theorem Alike.handle (h : Alike others t u) (hplace : ¬others place) :
    u.handle place = t.handle place := by
  unfold FileTree.handle
  rw [h.removed place hplace]

theorem Alike.contentOf? (h : Alike others t u) {file : Handle} (hplace : ¬others file.place) :
    u.contentOf? file = t.contentOf? file := by
  unfold FileTree.contentOf?
  rw [h.contentsAt hplace]

theorem Alike.databaseAt? (h : Alike others t u) (hplace : ¬others place) :
    u.databaseAt? place = t.databaseAt? place := by
  unfold FileTree.databaseAt?
  rw [h.handle hplace, h.contentOf? hplace]

theorem Alike.hasPlace (h : Alike others t u) (hplace : ¬others place) :
    u.hasPlace place = t.hasPlace place := by
  unfold FileTree.hasPlace
  rw [h.node? place hplace]

/-- Whether a path leads to none of the other places. -/
def LeadsElsewhere (others : Location → Prop) (t : FileTree) (path : String) : Prop :=
  ∀ place, t.locate? path = some place → ¬others place

theorem LeadsElsewhere.of_same (h : LeadsElsewhere others t path) (hsame : SameDirectories t u) :
    LeadsElsewhere others u path := by
  intro place hplace
  rw [hsame.locate?] at hplace
  exact h place hplace

theorem Alike.place? (h : Alike others t u) (hpath : LeadsElsewhere others t path) :
    u.place? path = t.place? path := by
  unfold FileTree.place?
  rw [h.directories.locate?]
  cases hlocated : t.locate? path with
  | none => rfl
  | some place =>
    dsimp only
    rw [h.node? place (hpath place hlocated)]

theorem Alike.opening? (h : Alike others t u) (hpath : LeadsElsewhere others t path)
    (hplain : path.startsWith "file:" = false) : u.opening? path = t.opening? path := by
  rw [opening?_plain hplain, opening?_plain hplain, h.directories.locate?]
  cases hlocated : t.locate? path with
  | none => rfl
  | some place => rw [Option.filter_some, Option.filter_some, h.hasPlace (hpath place hlocated)]

theorem Alike.find? (h : Alike others t u) (hpath : LeadsElsewhere others t path) :
    u.find? path = t.find? path := by
  rcases find?_cases path with hout | hin
  · exact (hout u t).2
  · rw [hin, hin, h.directories.locate?]
    cases hlocated : t.locate? path with
    | none => rfl
    | some place => exact h.node? place (hpath place hlocated)

theorem Alike.read (h : Alike others t u) (hpath : LeadsElsewhere others t path) :
    u.read path = t.read path := by
  unfold FileTree.read
  rw [h.find? hpath]

theorem Alike.isFile (h : Alike others t u) (hpath : LeadsElsewhere others t path) :
    u.isFile path = t.isFile path := by
  unfold FileTree.isFile
  rw [h.find? hpath]

/-! ### What is done at one place -/

theorem Alike.set (h : Alike others t u) (hplace : place ≠ []) (node : Node) :
    Alike others (t.set place node) (u.set place node) where
  directories other := by
    unfold isDirectoryAt
    rw [node?_set hplace, node?_set hplace]
    by_cases hother : other = place
    · rw [if_pos hother, if_pos hother]
    · rw [if_neg hother, if_neg hother]
      exact h.directories other
  node? other hother := by
    rw [node?_set hplace, node?_set hplace, h.node? other hother]
  removed := h.removed

theorem Alike.removeAt (h : Alike others t u) (hplace : place ≠ []) (hthere : ¬others place) :
    Alike others (t.removeAt place) (u.removeAt place) where
  directories other := by
    unfold isDirectoryAt
    rw [node?_removeAt t hplace, node?_removeAt u hplace]
    by_cases hother : other = place
    · rw [if_pos hother, if_pos hother]
    · rw [if_neg hother, if_neg hother]
      exact h.directories other
  node? other hother := by
    rw [node?_removeAt t hplace, node?_removeAt u hplace, h.node? other hother]
  removed other hother := by
    unfold FileTree.removeAt
    rw [SortedMap.find?_insert, SortedMap.find?_insert, h.contentsAt hthere,
      h.removed other hother]

/-- A file at another place is set. -/
theorem alike_set (hplace : t.hasPlace place = true) (hothers : others place) (c : Content) :
    Alike others t (t.set place (.file c)) where
  directories := sameDirectories_set hplace c
  node? other hother := by
    rw [node?_set (ne_nil_of_hasPlace hplace), if_neg]
    rintro rfl
    exact hother hothers
  removed _ _ := rfl

theorem alike_removeAt (hplace : t.hasPlace place = true) (hothers : others place) :
    Alike others t (t.removeAt place) where
  directories := sameDirectories_removeAt hplace
  node? other hother := by
    rw [node?_removeAt t (ne_nil_of_hasPlace hplace), if_neg]
    rintro rfl
    exact hother hothers
  removed other hother := by
    unfold removeAt
    rw [SortedMap.find?_insert, if_neg]
    rintro rfl
    exact hother hothers

end Comparing

/-! ### Operations -/

/-- **Whether an operation keeps to the file at a path**, and to some that it reads: away from their
places it finds nothing, and it changes nothing away from the first. -/
structure KeepsTo {α : Type} (path : String) (reads : List String) (op : FileTree → α × FileTree) :
    Prop where
  alike : ∀ {others : Location → Prop} {t u : FileTree}, Alike others t u →
    (∀ p ∈ path :: reads, LeadsElsewhere others t p) →
    (op u).1 = (op t).1 ∧ Alike others (op t).2 (op u).2
  elsewhere : ∀ {others : Location → Prop} {t : FileTree},
    (∀ place, t.locate? path = some place → others place) → Alike others t (op t).2

section Operations
variable {α β : Type} {path : String} {reads : List String} {op : FileTree → α × FileTree}

theorem KeepsTo.sameDirectories (h : KeepsTo path reads op) (t : FileTree) :
    SameDirectories t (op t).2 := by
  have halike : Alike (fun _ => True) t (op t).2 := h.elsewhere fun _ _ => trivial
  exact halike.directories

theorem keepsTo_pure (path : String) (reads : List String) (a : α) :
    KeepsTo path reads fun t => (a, t) :=
  ⟨fun h _ => ⟨rfl, h⟩, fun _ => .refl _ _⟩

theorem KeepsTo.map (h : KeepsTo path reads op) (f : α → β) :
    KeepsTo path reads fun t => (f (op t).1, (op t).2) where
  alike halike hreads := by
    obtain ⟨hsame, hafter⟩ := h.alike halike hreads
    exact ⟨congrArg f hsame, hafter⟩
  elsewhere := h.elsewhere

/-- One operation after another. -/
theorem KeepsTo.bind {next : α → FileTree → β × FileTree} (h : KeepsTo path reads op)
    (hnext : ∀ a, KeepsTo path reads (next a)) :
    KeepsTo path reads fun t => next (op t).1 (op t).2 where
  alike {others t u} halike hreads := by
    obtain ⟨hsame, hafter⟩ := h.alike halike hreads
    rw [hsame]
    exact (hnext _).alike hafter fun p hp => (hreads p hp).of_same (h.sameDirectories t)
  elsewhere {others t} hothers := by
    refine (h.elsewhere hothers).trans ((hnext _).elsewhere fun place hplace => ?_)
    rw [(h.sameDirectories t).locate?] at hplace
    exact hothers place hplace

variable {t : FileTree}

/-- **An operation on an index file keeps to it.** -/
theorem keepsTo_onIndex (hplain : path.startsWith "file:" = false) (reads : List String)
    (operation : Database.Operation α) : KeepsTo path reads (·.onIndex path operation) where
  alike {others t u} h hreads := by
    have hpath := hreads path List.mem_cons_self
    unfold FileTree.onIndex
    rw [h.opening? hpath hplain]
    cases ho : t.opening? path with
    | none => exact ⟨rfl, h⟩
    | some o =>
      have hplace : ¬others o.place := hpath o.place (place_of_opening? hplain ho)
      have hne : o.place ≠ [] := ne_nil_of_hasPlace (hasPlace_of_opening? ho)
      dsimp only
      rw [h.node? o.place hplace, h.databaseAt? hplace]
      split
      · exact ⟨rfl, h⟩
      split
      · exact ⟨rfl, h⟩
      rename_i before _
      obtain ⟨outcome, after⟩ := operation before
      dsimp only
      split
      · exact ⟨rfl, h.set hne _⟩
      split
      · exact ⟨rfl, h⟩
      · exact ⟨rfl, h.set hne _⟩
  elsewhere {others t} hothers := by
    unfold FileTree.onIndex
    cases ho : t.opening? path with
    | none => exact .refl _ _
    | some o =>
      have hplace : others o.place := hothers o.place (place_of_opening? hplain ho)
      have hset (c : Content) := alike_set (hasPlace_of_opening? ho) hplace c
      dsimp only
      split
      · exact .refl _ _
      split
      · exact .refl _ _
      rename_i before _
      obtain ⟨outcome, after⟩ := operation before
      dsimp only
      split
      · exact hset _
      split
      · exact .refl _ _
      · exact hset _

theorem keepsTo_removeDumps (hplain : path.startsWith "file:" = false) (reads : List String)
    (dumps : List String) : KeepsTo path reads (·.removeDumps path dumps) := by
  unfold FileTree.removeDumps
  split
  · exact keepsTo_pure path reads _
  · exact keepsTo_onIndex hplain reads _

theorem keepsTo_ingest (hplain : path.startsWith "file:" = false) (options : IngestOptions)
    (now : Nat) (file dump : String) :
    KeepsTo path [file] (·.ingest path options now file dump) where
  alike {others t u} h hreads := by
    unfold FileTree.ingest
    rw [h.read (hreads file (by simp))]
    cases t.read file with
    | error failure => exact ⟨rfl, h⟩
    | ok octets => exact (keepsTo_onIndex hplain [file] _).alike h hreads
  elsewhere {others t} hothers := by
    unfold FileTree.ingest
    cases t.read file with
    | error failure => exact .refl _ _
    | ok octets => exact (keepsTo_onIndex hplain [] _).elsewhere hothers

/-! ### Files that are written or removed -/

/-- What a change of the files leaves, which may have failed. -/
def settled (t : FileTree) : Except Failure FileTree → Except Failure Unit × FileTree
  | .ok after => (.ok (), after)
  | .error failure => (.error failure, t)

theorem keepsTo_write (path : String) (octets : List UInt8) :
    KeepsTo path [] fun t => t.settled (t.write path octets) where
  alike {others t u} h hreads := by
    have hpath := hreads path List.mem_cons_self
    unfold FileTree.write
    rw [h.place? hpath]
    cases hp : t.place? path with
    | none => exact ⟨rfl, h⟩
    | some p => exact ⟨rfl, h.set (ne_nil_of_hasPlace (place?_eq_some hp).2) _⟩
  elsewhere {others t} hothers := by
    unfold FileTree.write
    cases hp : t.place? path with
    | none => exact .refl _ _
    | some p =>
      obtain ⟨hlocated, hplace⟩ := place?_eq_some hp
      exact alike_set hplace (hothers p.1 hlocated) _

theorem keepsTo_remove (path : String) (reads : List String) :
    KeepsTo path reads fun t => t.settled (t.remove path) where
  alike {others t u} h hreads := by
    have hpath := hreads path List.mem_cons_self
    simp only [remove_eq, h.place? hpath]
    rcases hp : t.place? path with _ | ⟨place, _ | c⟩
    · exact ⟨rfl, h⟩
    · exact ⟨rfl, h⟩
    · obtain ⟨hlocated, hplace⟩ := place?_eq_some hp
      exact ⟨rfl, h.removeAt (ne_nil_of_hasPlace hplace) (hpath place hlocated)⟩
  elsewhere {others t} hothers := by
    simp only [remove_eq]
    rcases hp : t.place? path with _ | ⟨place, _ | c⟩
    · exact .refl _ _
    · exact .refl _ _
    · obtain ⟨hlocated, hplace⟩ := place?_eq_some hp
      exact alike_removeAt hplace (hothers place hlocated)

end Operations

/-! ### Files that are held -/

section Held
variable {others : Location → Prop} {t u : FileTree} {α : Type}

theorem Alike.readHeld (h : Alike others t u) {file : Handle} (hplace : ¬others file.place)
    (patience : Nat) (read : Database → Except Failure α) :
    u.readHeld patience file read = t.readHeld patience file read := by
  unfold FileTree.readHeld
  rw [h.contentOf? hplace]

theorem Alike.index (h : Alike others t u) {file : Handle} (hplace : ¬others file.place)
    (patience : Nat) : u.index patience file = t.index patience file := by
  unfold FileTree.index
  simp only [h.readHeld hplace]

theorem Alike.openIndex (h : Alike others t u) {path : String}
    (hpath : LeadsElsewhere others t path) (hplain : path.startsWith "file:" = false) :
    u.openIndex path = t.openIndex path := by
  unfold FileTree.openIndex
  rw [h.opening? hpath hplain]
  cases ho : t.opening? path with
  | none => rfl
  | some o => exact congrArg Except.ok (h.handle (hpath o.place (place_of_opening? hplain ho)))

end Held
end GraphAnswers.FileTree
