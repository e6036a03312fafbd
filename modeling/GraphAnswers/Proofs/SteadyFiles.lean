import GraphAnswers.Proofs.Registry
/-!
# A registry on files that stay as they are

While the files stay as they are, whatever a registry keeps of an index is as the file of the index
is: that file is held, it has the state that was seen, and it would give all that is remembered
(`Registry.IsCurrent`).  So what the registry has been asked before, and about which index, does not
show in what it answers (`Registry.IsCurrent.told_carryOut`).  This does not depend on how the index
came about; `Registry.Serves` tells of indexes that change.
-/
namespace GraphAnswers

open FileTree

/-! ### An index on files that stay as they are -/

/-- The file at a path is opened, and read as long as readers can wait. -/
theorem FileTree.exists_handle {files : FileTree} {path : String} {d : Database}
    (h : files.database? path = some d) : ∃ file, files.openIndex path = .ok file ∧
      ∀ {α : Type} (patience : Nat) (read : Database → Except Failure α),
        files.readHeld patience file read =
          if patience ≤ maxPatience then read d else .error .io := by
  obtain ⟨o, ho, hd⟩ := database?_eq_some_iff.mp h
  refine ⟨files.handle o.place, ?_, fun patience read => ?_⟩
  · unfold openIndex
    rw [ho]
  · unfold databaseAt? at hd
    unfold readHeld
    rw [hd]

/-- As long as readers can wait, the file that is opened gives what the index gives. -/
theorem FileTree.index_of_openIndex {files : FileTree} {path : String} {d : Database}
    {file : Handle} {patience : Nat} (hd : files.database? path = some d)
    (hopened : files.openIndex path = .ok file) (hpatience : patience ≤ maxPatience) :
    files.index patience file = d.index := by
  obtain ⟨file', hopened', hread⟩ := exists_handle hd
  cases hopened.symm.trans hopened'
  unfold FileTree.index
  simp only [hread, if_pos hpatience]

theorem FileTree.indexAt_eq {files : FileTree} {path : String} {d : Database} {patience : Nat}
    (hd : files.database? path = some d) (hpatience : patience ≤ maxPatience) :
    files.indexAt patience path = d.index := by
  obtain ⟨file, hopened, _⟩ := exists_handle hd
  rw [← index_of_openIndex hd hopened hpatience]
  unfold FileTree.indexAt
  rw [hopened]
  rfl

/-- What is kept of an index is as the file is: it is held, has the state that was seen, and would
give what is remembered. -/
structure OpenIndex.IsCurrent (x : OpenIndex) (files : FileTree) (patience : Nat) (path : String)
    (file : FileTree.Handle) : Prop where
  opened : files.openIndex path = .ok file
  held : x.held = some file
  state : files.readHeld patience file Database.state = .ok x.state
  cache : x.cache.Agrees (files.index patience file)

namespace Registry

/-- **Whether all that a registry keeps is as the files are**, and it can have caches if it keeps
anything. -/
def IsCurrent (r : Registry) (files : FileTree) : Prop :=
  ∀ name path x, indexFile? r.root name = some path → r.opened.find? name = some x →
    r.capacity ≤ LookupCache.maxCapacity ∧ ∃ file, x.IsCurrent files r.patience path file

variable {r : Registry} {files : FileTree} {name path : String} {x : OpenIndex}
  {file : FileTree.Handle} {α : Type}

theorem isCurrent_of_opened (h : r.opened = .empty) : r.IsCurrent files := by
  intro name path x _ hx
  rw [h] at hx
  cases hx

theorem IsCurrent.keep (h : r.IsCurrent files) (hnamed : indexFile? r.root name = some path)
    (hcapacity : r.capacity ≤ LookupCache.maxCapacity)
    (hx : x.IsCurrent files r.patience path file) : (r.keep name x).IsCurrent files := by
  intro other path' y hpath hy
  unfold Registry.keep at hy
  rw [SortedMap.find?_insert] at hy
  split at hy
  · rename_i hsame
    cases hy
    subst hsame
    cases hnamed.symm.trans hpath
    exact ⟨hcapacity, file, hx⟩
  · exact h other path' y hpath hy

theorem IsCurrent.close (h : r.IsCurrent files) : (r.close name).IsCurrent files := by
  intro other path y hpath hy
  unfold Registry.close at hy
  rw [SortedMap.find?_erase] at hy
  split at hy
  · cases hy
  · exact h other path y hpath hy

/-! ### Asking for an index -/

/-- What comes of asking for an index on files that stay as they are: it is current and kept, or
there is none, and nothing new is kept. -/
inductive Gets (r : Registry) (files : FileTree) (name : String) :
    Except Failure OpenIndex × Registry → Prop
  | index {path : String} {x : OpenIndex} {file : FileTree.Handle}
      (named : indexFile? r.root name = some path)
      (capacity : r.capacity ≤ LookupCache.maxCapacity)
      (current : x.IsCurrent files r.patience path file) : Gets r files name (.ok x, r.keep name x)
  | failure (failure : Failure) : Gets r files name (.error failure, r)
  | missing (failure : Failure) : Gets r files name (.error failure, r.close name)

/-- An index that is current is found as it was left. -/
theorem revisit_eq (hx : x.IsCurrent files r.patience path file) :
    r.revisit files name path x = (.ok x, r.keep name x) := by
  have hheld : { x with held := some file } = x := by
    rw [← hx.held]
  unfold Registry.revisit Registry.fileOf
  rw [hx.held]
  dsimp only
  rw [hx.state]
  dsimp only
  rw [if_pos rfl, hheld]

theorem openNew_eq (hcapacity : r.capacity ≤ LookupCache.maxCapacity)
    (hopened : files.openIndex path = .ok file) : r.openNew files name path =
      match files.readHeld r.patience file Database.state with
      | .ok state =>
        (.ok ⟨.ofCapacity r.capacity, state, some file⟩,
          r.keep name ⟨.ofCapacity r.capacity, state, some file⟩)
      | .error failure => (.error failure, r) := by
  unfold Registry.openNew
  rw [hopened, LookupCache.ofCapacity?_of_le hcapacity]
  simp only [bind, Except.bind]
  cases files.readHeld r.patience file Database.state <;> rfl

theorem openNew_refused (hcapacity : LookupCache.maxCapacity < r.capacity)
    (hopened : files.openIndex path = .ok file) :
    r.openNew files name path = (.error .io, r) := by
  unfold Registry.openNew
  rw [hopened, LookupCache.ofCapacity?_of_lt hcapacity]
  rfl

theorem isCurrent_new {state : IndexState} (hopened : files.openIndex path = .ok file)
    (hstate : files.readHeld r.patience file Database.state = .ok state) :
    OpenIndex.IsCurrent ⟨.ofCapacity r.capacity, state, some file⟩ files r.patience path file where
  opened := hopened
  held := rfl
  state := hstate
  cache := LookupCache.agrees_ofCapacity _ _

theorem gets_openNew (hnamed : indexFile? r.root name = some path) :
    Gets r files name (r.openNew files name path) := by
  cases hopened : files.openIndex path with
  | error failure =>
    unfold Registry.openNew
    rw [hopened]
    exact .failure failure
  | ok file =>
    by_cases hcapacity : r.capacity ≤ LookupCache.maxCapacity
    · rw [openNew_eq hcapacity hopened]
      cases hstate : files.readHeld r.patience file Database.state with
      | ok state => exact .index hnamed hcapacity (isCurrent_new hopened hstate)
      | error failure => exact .failure failure
    · rw [openNew_refused (Nat.not_le.mp hcapacity) hopened]
      exact .failure .io

theorem IsCurrent.gets (h : r.IsCurrent files) (name : String) :
    Gets r files name (r.get files name) := by
  unfold Registry.get
  split
  · exact .failure _
  · rename_i path hnamed
    split
    · split
      · rename_i x hfind
        obtain ⟨hcapacity, file, hx⟩ := h name path x hnamed hfind
        rw [revisit_eq hx]
        exact .index hnamed hcapacity hx
      · exact gets_openNew hnamed
    · exact .missing _

/-! ### Inquiries -/

/-- Through what is current, an inquiry comes to what the file gives, and leaves it current. -/
theorem consult_current (name : String) (hx : x.IsCurrent files r.patience path file)
    (inquiry : Inquiry α) :
    (r.consult files name path x inquiry).1 = inquiry.run (files.index r.patience file) ∧
      ((r.consult files name path x inquiry).2 = r ∨
        ∃ y : OpenIndex, y.IsCurrent files r.patience path file ∧
          (r.consult files name path x inquiry).2 = r.keep name y) := by
  obtain ⟨hrun, hagrees⟩ := inquiry.runCached_eq hx.cache
  have hfile : fileOf files x path = .ok file := by
    unfold Registry.fileOf
    rw [hx.held]
  have hleft : OpenIndex.IsCurrent
      { x with
        cache := (inquiry.runCached (files.index r.patience file) x.cache).2
        held := some file } files r.patience path file :=
    ⟨hx.opened, rfl, hx.state, hagrees⟩
  unfold Registry.consult
  rw [hfile]
  cases inquiry with
  | done outcome => exact ⟨rfl, .inl rfl⟩
  | property lookup next => exact ⟨hrun, .inr ⟨_, hleft, rfl⟩⟩
  | topics term language next => exact ⟨hrun, .inr ⟨_, hleft, rfl⟩⟩

/-- What is kept goes on being current, whatever is inquired of which index. -/
theorem IsCurrent.carryOut (h : r.IsCurrent files) (name : String) (inquiry : Inquiry α) :
    (r.carryOut files name inquiry).2.IsCurrent files ∧
      ∃ opened, (r.carryOut files name inquiry).2 = { r with opened } := by
  have hgets := h.gets name
  unfold Registry.carryOut
  rcases hget : r.get files name with ⟨outcome, r'⟩
  rw [hget] at hgets
  cases hgets with
  | @index path x file named capacity current =>
    have hkept := h.keep named capacity current
    have hpath : indexFile? (r.keep name x).root name = some path := named
    dsimp only
    rw [hpath, Option.getD_some]
    rcases (consult_current (r := r.keep name x) name current inquiry).2 with
      hsame | ⟨y, hy, hkeep⟩
    · rw [hsame]
      exact ⟨hkept, _, rfl⟩
    · rw [hkeep]
      exact ⟨hkept.keep hpath capacity hy, _, rfl⟩
  | failure failure => exact ⟨h, r.opened, rfl⟩
  | missing failure => exact ⟨h.close, _, rfl⟩

end Registry

/-! ### The index in a file -/

/-- That the state cannot be told is the fault of the file. -/
theorem Database.of_state_error {d : Database} {failure : Failure} (h : d.state = .error failure) :
    failure = .database := by
  unfold Database.state Database.needDumps Store.state at h
  split at h
  · split at h
    · cases h
      rfl
    · cases h
  · cases h
    rfl

namespace Registry

variable {r : Registry} {files : FileTree} {name path : String} {d : Database} {α : Type}

/-- Whether a registry can serve an index: caches and readers with its settings can be had, and the
records of dumps can be added up. -/
def CanServe (r : Registry) (d : Database) : Prop := r.IsAble ∧ d.state.isOk = true

instance (r : Registry) (d : Database) : Decidable (r.CanServe d) :=
  inferInstanceAs (Decidable (_ ∧ _))

/-- An index that can be served is found, and gives what its file gives. -/
theorem IsCurrent.get_served (h : r.IsCurrent files) (hnamed : indexFile? r.root name = some path)
    (hfile : files.isFile path = true) (hd : files.database? path = some d)
    (hserve : r.CanServe d) : ∃ x file, r.get files name = (.ok x, r.keep name x) ∧
      x.IsCurrent files r.patience path file ∧ files.index r.patience file = d.index := by
  obtain ⟨⟨hcapacity, hpatience⟩, hstate⟩ := hserve
  obtain ⟨file, hopened, hread⟩ := exists_handle hd
  have hsame := index_of_openIndex hd hopened hpatience
  unfold Registry.get
  rw [hnamed]
  dsimp only
  rw [if_pos hfile]
  split
  · rename_i x hfind
    obtain ⟨_, file', hx⟩ := h name path x hnamed hfind
    cases hopened.symm.trans hx.opened
    exact ⟨x, file, revisit_eq hx, hx, hsame⟩
  · cases hd : d.state with
    | error failure =>
      rw [hd] at hstate
      cases hstate
    | ok state =>
      have hnew : files.readHeld r.patience file Database.state = .ok state := by
        rw [hread, if_pos hpatience, hd]
      refine ⟨_, file, ?_, isCurrent_new hopened hnew, hsame⟩
      rw [openNew_eq hcapacity hopened, hnew]

/-- An index that cannot be served is not opened. -/
theorem IsCurrent.get_refused (h : r.IsCurrent files) (hnamed : indexFile? r.root name = some path)
    (hfile : files.isFile path = true) (hd : files.database? path = some d)
    (hserve : ¬r.CanServe d) : ∃ failure : Failure, (r.get files name).1 = .error failure ∧
      failure.reply = Failure.io.reply := by
  obtain ⟨file, hopened, hread⟩ := exists_handle hd
  -- where the state can be read, the index can be served
  have hstate {state : IndexState} (hcapacity : r.capacity ≤ LookupCache.maxCapacity)
      (hread' : files.readHeld r.patience file Database.state = .ok state) : False := by
    rw [hread] at hread'
    split at hread'
    · rename_i hpatience
      exact hserve ⟨⟨hcapacity, hpatience⟩, by rw [hread']; rfl⟩
    · cases hread'
  unfold Registry.get
  rw [hnamed]
  dsimp only
  rw [if_pos hfile]
  split
  · rename_i x hfind
    obtain ⟨hcapacity, file', hx⟩ := h name path x hnamed hfind
    cases hopened.symm.trans hx.opened
    exact (hstate hcapacity hx.state).elim
  · rename_i hfind
    by_cases hcapacity : r.capacity ≤ LookupCache.maxCapacity
    · rw [openNew_eq hcapacity hopened]
      split
      · rename_i state hread'
        exact (hstate hcapacity hread').elim
      · rename_i failure hread'
        refine ⟨failure, rfl, ?_⟩
        rw [hread] at hread'
        split at hread'
        · rw [Database.of_state_error hread']
          rfl
        · cases hread'
          rfl
    · exact ⟨.io, by rw [openNew_refused (Nat.not_le.mp hcapacity) hopened], rfl⟩

/-- **What a registry tells** of an inquiry about the index in a file, whatever it has been asked
before. -/
theorem IsCurrent.told_carryOut (h : r.IsCurrent files)
    (hnamed : indexFile? r.root name = some path) (hfile : files.isFile path = true)
    (hd : files.database? path = some d) (inquiry : Inquiry String) :
    Server.told (r.carryOut files name inquiry).1 =
      if r.CanServe d then Server.told (inquiry.run d.index) else Failure.io.reply := by
  unfold Registry.carryOut
  by_cases hserve : r.CanServe d
  · obtain ⟨x, file, hget, hx, hsame⟩ := h.get_served hnamed hfile hd hserve
    have hpath : indexFile? (r.keep name x).root name = some path := hnamed
    rw [if_pos hserve, hget]
    dsimp only
    rw [hpath, Option.getD_some, (consult_current (r := r.keep name x) name hx inquiry).1, ← hsame]
    rfl
  · obtain ⟨failure, hfailed, hreply⟩ := h.get_refused hnamed hfile hd hserve
    rw [if_neg hserve]
    rcases hget : r.get files name with ⟨outcome, r'⟩
    rw [hget] at hfailed
    cases hfailed
    exact hreply

end Registry

end GraphAnswers
