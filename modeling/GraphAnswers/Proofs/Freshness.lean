import GraphAnswers.Proofs.NewIndex
import GraphAnswers.Proofs.Registry
/-!
# Answers are never stale

An installation is a server and the files that it answers from.  Its index file is made by the
standard migrations, takes dumps in, has dumps removed, is removed, and is made again; in between,
the server is asked.  It remembers look-ups over all of that, and yet each answer comes from the
rows that the file holds at the moment (`Installation.answers_current`).

Two things have to be as an installation has them.  Times are not used twice, and a file that was
removed is missed by a question before the next one is made.  Dumps may go by any identifiers:
nothing here depends on how these are found.
-/
namespace GraphAnswers

/-- The files and the server of an installation. -/
structure Installation where
  files : FileTree
  server : Server
  /-- A time that is later than that of every dump taken in. -/
  now : Nat

/-- Whether the index file is there. -/
inductive Presence where
  | present
  /-- It is not; `missed` tells whether a question has come up against that. -/
  | absent (missed : Bool)
  deriving DecidableEq, Repr

/-- What a question makes of it. -/
def Presence.afterQuestion : Presence → Presence
  | present => present
  | absent _ => absent true

namespace Installation

/-- An installation whose server has not been asked yet. -/
def start (files : FileTree) (root : String) (capacity patience : Nat) (engine : Engine) :
    Installation where
  files
  server := { registry := { root, capacity, patience }, engine }
  now := 0

/-- **What may happen** to an installation with one index, of a name and at a path. -/
inductive Step (name path : String) : Installation → Presence → Installation → Presence → Prop
  /-- The index file is made. -/
  | create {i : Installation} {files : FileTree}
      (made : i.files.onIndex path Migration.setUp = (.ok (), files))
      (there : files.isFile path = true) :
      Step name path i (.absent true) { i with files } .present
  /-- A dump is taken in, at a later time than any before. -/
  | ingest {i : Installation} {files : FileTree} {options : IngestOptions} {time : Nat}
      {file dump : String} {stats : IngestStats} (later : i.now ≤ time)
      (taken : i.files.ingest path options time file dump = (.ok stats, files)) :
      Step name path i .present { i with files, now := time + 1 } .present
  /-- A dump cannot be taken in. -/
  | ingestFails {i : Installation} {files : FileTree} {options : IngestOptions} {time : Nat}
      {file dump : String} {failure : Failure}
      (failed : i.files.ingest path options time file dump = (.error failure, files)) :
      Step name path i .present { i with files } .present
  /-- Dumps are removed, whether they are there or not. -/
  | delete {i : Installation} {files : FileTree} {dumps : List String}
      {outcome : Except Failure Nat}
      (deleted : i.files.removeDumps path dumps = (outcome, files)) :
      Step name path i .present { i with files } .present
  /-- The index file is removed. -/
  | remove {i : Installation} {files : FileTree} (removed : i.files.remove path = .ok files) :
      Step name path i .present { i with files } (.absent false)
  /-- Another file is written, such as a dump. -/
  | write {i : Installation} {p : Presence} {files : FileTree} {other : String}
      {octets : List UInt8} (written : i.files.write other octets = .ok files)
      (elsewhere : i.files.locate? other ≠ i.files.locate? path) :
      Step name path i p { i with files } p
  /-- A question is asked. -/
  | ask {i : Installation} {p : Presence} (question : String) :
      Step name path i p { i with server := (i.server.answer i.files question name).2 }
        p.afterQuestion

/-- **A run**, of any length. -/
inductive Run (name path : String) (first : Installation) (before : Presence) :
    Installation → Presence → Prop
  | start : Run name path first before first before
  | step {i j : Installation} {p q : Presence} (run : Run name path first before i p)
      (step : Step name path i p j q) : Run name path first before j q

/-! ### What holds all along -/

/-- **The invariant.**  While the file is there, the index is in service; while it is not, nothing
is kept of it once that has been noticed. -/
def InOrder (name path : String) (i : Installation) : Presence → Prop
  | .present => ∃ o d, i.server.registry.Serves i.files name path o d i.now
  | .absent missed => indexFile? i.server.registry.root name = some path ∧
      i.files.isFile path = false ∧ (missed = true → i.server.registry.opened.find? name = none)

variable {name path : String} {first i j : Installation} {before p q : Presence}

/-- A step keeps everything in order. -/
theorem Step.inOrder (hs : Step name path i p j q) (h : InOrder name path i p) :
    InOrder name path j q := by
  cases hs with
  | create made there =>
    obtain ⟨hnamed, hmissing, hclosed⟩ := h
    have hchanged : (Migration.setUp .empty).2 ≠ .empty := by
      rw [Migration.setUp_empty]
      decide
    obtain ⟨o, hholds, hlocated⟩ := FileTree.created_of_onIndex hmissing made there hchanged
    rw [Migration.setUp_empty] at hholds
    refine ⟨o, Migration.fresh, hnamed, hholds, hlocated, Migration.fresh_hasTables,
      Store.sound_empty _, fun x hx => ?_⟩
    rw [hclosed rfl] at hx
    cases hx
  | ingest later taken =>
    obtain ⟨o, d, hserves⟩ := h
    exact ⟨o, hserves.ingest later taken⟩
  | ingestFails failed =>
    obtain ⟨o, d, hserves⟩ := h
    exact ⟨o, d, hserves.ingest_error failed⟩
  | delete deleted =>
    obtain ⟨o, d, hserves⟩ := h
    exact ⟨o, hserves.removeDumps deleted⟩
  | remove removed =>
    obtain ⟨o, d, hserves⟩ := h
    exact ⟨hserves.named, FileTree.isFile_remove removed, fun h => by cases h⟩
  | write written elsewhere =>
    cases p with
    | present =>
      obtain ⟨o, d, hserves⟩ := h
      exact ⟨o, d, hserves.write written elsewhere⟩
    | absent missed =>
      obtain ⟨hnamed, hmissing, hclosed⟩ := h
      exact ⟨hnamed, FileTree.isFile_write hmissing written elsewhere, hclosed⟩
  | ask question =>
    cases p with
    | present =>
      obtain ⟨o, d, hserves⟩ := h
      exact ⟨o, d, (hserves.carryOut (i.server.engine.answer question)).2.1⟩
    | absent missed =>
      obtain ⟨hnamed, hmissing, _⟩ := h
      obtain ⟨hout, hclosed⟩ :=
        Registry.carryOut_missing hnamed hmissing (i.server.engine.answer question)
      show InOrder name path
        { i with server := ⟨(i.server.registry.carryOut i.files name _).2, _⟩ } (.absent true)
      rw [hout]
      exact ⟨hnamed, hmissing, fun _ => hclosed⟩

/-- A step changes nothing about a server but what it has open. -/
theorem Step.server (hs : Step name path i p j q) (h : InOrder name path i p) :
    ∃ opened, j.server = ⟨{ i.server.registry with opened }, i.server.engine⟩ := by
  cases hs with
  | ask question =>
    cases p with
    | present =>
      obtain ⟨o, d, hserves⟩ := h
      obtain ⟨_, _, opened, hopened⟩ := hserves.carryOut (i.server.engine.answer question)
      exact ⟨opened, congrArg (Server.mk · i.server.engine) hopened⟩
    | absent missed =>
      obtain ⟨hnamed, hmissing, _⟩ := h
      obtain ⟨hout, _⟩ :=
        Registry.carryOut_missing hnamed hmissing (i.server.engine.answer question)
      exact ⟨_, congrArg (fun x => Server.mk x.2 i.server.engine) hout⟩
  | _ => exact ⟨i.server.registry.opened, rfl⟩

/-- A run keeps everything in order. -/
theorem Run.inOrder (hr : Run name path first before i p) (h : InOrder name path first before) :
    InOrder name path i p ∧
      ∃ opened, i.server = ⟨{ first.server.registry with opened }, first.server.engine⟩ := by
  induction hr with
  | start => exact ⟨h, first.server.registry.opened, rfl⟩
  | step _ hs ih =>
    obtain ⟨hi, opened, hopened⟩ := ih
    obtain ⟨opened', hopened'⟩ := hs.server hi
    rw [hopened] at hopened'
    exact ⟨hs.inOrder hi, opened', hopened'⟩

/-! ### Answers -/

/-- **Answers are never stale.**  After any run, a question is answered from the rows that the index
file holds; only a server whose settings ask for a cache, or for a time to wait, that cannot be had
answers none.  While there is no index file, the index is unavailable. -/
theorem answers_current {files : FileTree} {root : String} {capacity patience : Nat}
    {engine : Engine} (hname : indexFile? root name = some path)
    (hmissing : files.isFile path = false)
    (hrun : Run name path (start files root capacity patience engine) (.absent true) i p)
    (question : String) :
    (p = .present → ∃ d, i.files.database? path = some d ∧
      (i.server.answer i.files question name).1 =
        if capacity ≤ LookupCache.maxCapacity ∧ patience ≤ FileTree.maxPatience then
          (engine.answer question).run d.index
        else .error .io) ∧
    (p ≠ .present →
      (i.server.answer i.files question name).1 = .error (.indexUnavailable name)) := by
  have hstart : InOrder name path (start files root capacity patience engine) (.absent true) :=
    ⟨hname, hmissing, fun _ => rfl⟩
  obtain ⟨hi, opened, hopened⟩ := hrun.inOrder hstart
  refine ⟨?_, fun hp => ?_⟩
  · rintro rfl
    obtain ⟨o, d, hserves⟩ := hi
    refine ⟨d, hserves.holds.database?, ?_⟩
    have houtcome := (hserves.carryOut (i.server.engine.answer question)).1
    rw [hopened] at houtcome
    show (i.server.registry.carryOut i.files name (i.server.engine.answer question)).1 = _
    rw [hopened, houtcome, hserves.tables.index]
    rfl
  · cases p with
    | present => exact absurd rfl hp
    | absent missed =>
      obtain ⟨hnamed, hgone, _⟩ := hi
      exact congrArg Prod.fst
        (Registry.carryOut_missing hnamed hgone (i.server.engine.answer question)).1

/-! ### One run -/

/-- The index when the dump has been taken in. -/
def jawsIndex : Database := (Database.ingest {} 1 ⟨"a.nt", "a.nt", FileTree.jaws⟩ Migration.fresh).2

/-- The installation when the index has been made and the dump taken in. -/
def afterJaws (capacity : Nat) : Installation where
  files := (FileTree.withIndex Migration.fresh).set ["f.db"] (.file (.index jawsIndex))
  server := (start FileTree.oneDump "." capacity 5000 {}).server
  now := 2

theorem database?_afterJaws (capacity : Nat) :
    (afterJaws capacity).files.database? "./f.db" = some jawsIndex :=
  ((FileTree.holds_withIndex Migration.fresh).set jawsIndex).database?

theorem run_afterJaws (capacity : Nat) :
    Run "f" "./f.db" (start FileTree.oneDump "." capacity 5000 {}) (.absent true)
      (afterJaws capacity) .present := by
  have hread : (FileTree.withIndex Migration.fresh).read "./a.nt" = .ok FileTree.jaws := by
    decide +kernel
  have hstats : (Database.ingest {} 1 ⟨"a.nt", "a.nt", FileTree.jaws⟩ Migration.fresh).1 =
      .ok ⟨2, 2, 0⟩ := by
    decide +kernel
  have htaken : (FileTree.withIndex Migration.fresh).ingest "./f.db" {} 1 "./a.nt" "a.nt" =
      (.ok ⟨2, 2, 0⟩, (afterJaws capacity).files) := by
    have hname : Text.fileName "./a.nt" = "a.nt" := by decide +kernel
    unfold FileTree.ingest
    rw [hread, hname]
    dsimp only
    rw [(FileTree.holds_withIndex Migration.fresh).onIndex_eq, hstats]
    rfl
  have hcreate : Step "f" "./f.db" (start FileTree.oneDump "." capacity 5000 {}) (.absent true)
      { start FileTree.oneDump "." capacity 5000 {} with
        files := FileTree.withIndex Migration.fresh } .present :=
    .create FileTree.onIndex_oneDump (by decide +kernel)
  exact (Run.start.step hcreate).step (.ingest (Nat.zero_le 1) htaken)

theorem run_jawsIndex :
    (({} : Engine).answer "What is Jaws").run jawsIndex.index = .ok "m.1: film film" := by
  decide +kernel

theorem answers_current_jaws :
    ((afterJaws 64).server.answer (afterJaws 64).files "What is Jaws" "f").1 =
      .ok "m.1: film film" := by
  have hname : indexFile? "." "f" = some "./f.db" := by decide +kernel
  obtain ⟨d, hd, hanswer⟩ :=
    (answers_current hname (by decide +kernel) (run_afterJaws 64) "What is Jaws").1 rfl
  obtain rfl : d = jawsIndex := Option.some.inj (hd.symm.trans (database?_afterJaws 64))
  rw [hanswer, if_pos (by decide), run_jawsIndex]

/-- A cache of 2 ^ 60 places cannot be had, and then nothing is answered. -/
theorem not_current_for_every_capacity : ¬∀ (capacity : Nat) (i : Installation),
    Run "f" "./f.db" (start FileTree.oneDump "." capacity 5000 {}) (.absent true) i .present →
    ∀ question d, i.files.database? "./f.db" = some d →
      (i.server.answer i.files question "f").1 = (({} : Engine).answer question).run d.index := by
  intro h
  have hanswer := h (2 ^ 60) _ (run_afterJaws _) "What is Jaws" _ (database?_afterJaws _)
  rw [run_jawsIndex] at hanswer
  have hrefused : ((afterJaws (2 ^ 60)).server.answer (afterJaws (2 ^ 60)).files
      "What is Jaws" "f").1 = .error .io := by
    decide +kernel
  rw [hrefused] at hanswer
  cases hanswer

end Installation

end GraphAnswers
