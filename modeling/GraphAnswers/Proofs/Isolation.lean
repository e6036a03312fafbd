import GraphAnswers.Proofs.NewIndex
import GraphAnswers.Proofs.OneIndex
/-!
# Indexes do not get in each other's way

The indexes of a directory are made, take dumps in, have the vanished ones removed, are removed, and
are asked about, all through one server.  The file of an index lies in the directory, and no other
index has it; so whatever is done with an index comes to the same as if nothing had been done with
any other (`Premises.indexes_isolated`).

The path of the directory has to be plain.  If it is empty, a name may open like a file URI, and then
the index has the file of another one, or one outside of the directory
(`Premises.not_isolated_in_empty_root`).
-/
namespace GraphAnswers

open FileTree

/-! ### What may be done -/

/-- A path whose last name is that of a dump. -/
structure DumpPath where
  path : String
  isDump : Dump.isDumpName (Text.fileName path) = true

/-- What comes of doing something with an index. -/
inductive Gain where
  | nothing
  | takenIn (stats : IngestStats)
  | removed (rows : Nat)
  | answer (text : String)
  deriving DecidableEq, Repr

namespace FileTree

/-- Removes the dumps that were found to be gone from the index file at a path. -/
def removeGone (path : String) : Except Failure (SortedSet String) → FileTree →
    Except Failure Nat × FileTree
  | .ok gone, t => t.removeDumps path gone.toList
  | .error failure, t => (.error failure, t)

/-- Removes the dumps that are not among the existing ones from the index file at a path. -/
def cleanUp (t : FileTree) (path : String) (existing : List String) :
    Except Failure Nat × FileTree :=
  let (gone, t) := t.onIndex path (Database.reading fun d => d.vanished existing)
  t.removeGone path gone

end FileTree

/-- What may be done with an index file. -/
inductive Work where
  /-- It is made, if it is not there, and brought up to date with the migrations that were found,
  however their scripts are carried out. -/
  | create (execute : Migration.Execution) (known : Except Failure (List Migration))
  /-- The dump in a file is taken in, under a path. -/
  | ingest (options : IngestOptions) (now : Nat) (file : DumpPath) (dump : String)
  /-- The dumps that are not among the existing ones are removed. -/
  | cleanUp (existing : List String)
  /-- The file is removed. -/
  | remove

namespace Work

/-- The paths that are read. -/
def reads : Work → List DumpPath
  | ingest _ _ file _ => [file]
  | _ => []

/-- Carries it out on the index file at a path. -/
def carryOut (path : String) : Work → FileTree → Except Failure Gain × FileTree
  | create execute known, t =>
    (t.onIndex path (Migration.run execute known)).map (Except.map fun _ => .nothing) id
  | ingest options now file dump, t =>
    (t.ingest path options now file.path dump).map (Except.map .takenIn) id
  | cleanUp existing, t => (t.cleanUp path existing).map (Except.map .removed) id
  | remove, t => (t.settled (t.remove path)).map (Except.map fun _ => .nothing) id

end Work

/-- A server and the files that it answers from. -/
structure Premises where
  files : FileTree
  server : Server

namespace Premises

/-- What may happen. -/
inductive Step where
  /-- Something is done with the file of the index of a name. -/
  | work (name : String) (work : Work)
  /-- A question is asked about the index of a name. -/
  | ask (name question : String)
  /-- A dump is written. -/
  | write (file : DumpPath) (octets : List UInt8)
  /-- A dump is removed. -/
  | delete (file : DumpPath)

/-- Whether a step names no index but this one. -/
def Step.remains (name : String) : Step → Bool
  | work other _ => other == name
  | ask other _ => other == name
  | write _ _ => true
  | delete _ => true

/-- Lets a step happen.  Nothing is done with a name that is none of an index. -/
def take (s : Premises) : Step → Except Failure Gain × Premises
  | .work name work =>
    match indexFile? s.server.registry.root name with
    | none => (.error (.indexUnavailable name), s)
    | some path =>
      let (outcome, files) := work.carryOut path s.files
      (outcome, { s with files })
  | .ask name question =>
    let (outcome, server) := s.server.answer s.files question name
    (outcome.map .answer, { s with server })
  | .write file octets =>
    let (outcome, files) := s.files.settled (s.files.write file.path octets)
    (outcome.map fun _ => .nothing, { s with files })
  | .delete file =>
    let (outcome, files) := s.files.settled (s.files.remove file.path)
    (outcome.map fun _ => .nothing, { s with files })

/-- What comes of the steps of a run that name no index but this one. -/
def outcomes (name : String) : Premises → List Step → List (Except Failure Gain)
  | _, [] => []
  | s, step :: rest =>
    let (outcome, after) := s.take step
    if step.remains name then outcome :: outcomes name after rest else outcomes name after rest

end Premises

/-! ### What is done with a file -/

section Work
variable {path : String}

theorem FileTree.keepsTo_removeGone (hplain : path.startsWith "file:" = false)
    (gone : Except Failure (SortedSet String)) : KeepsTo path [] (removeGone path gone) := by
  cases gone with
  | error failure => exact keepsTo_pure path [] _
  | ok gone => exact keepsTo_removeDumps hplain [] gone.toList

theorem FileTree.keepsTo_cleanUp (hplain : path.startsWith "file:" = false)
    (existing : List String) : KeepsTo path [] (·.cleanUp path existing) := by
  have hgone := keepsTo_onIndex hplain [] (Database.reading fun d => d.vanished existing)
  exact hgone.bind (keepsTo_removeGone hplain)

/-- **Work on an index file keeps to it**, and to the dump that it reads. -/
theorem Work.keepsTo (hplain : path.startsWith "file:" = false) (work : Work) :
    KeepsTo path (work.reads.map DumpPath.path) (work.carryOut path) := by
  cases work with
  | create execute known => exact (keepsTo_onIndex hplain [] _).map _
  | ingest options now file dump => exact (keepsTo_ingest hplain options now file.path dump).map _
  | cleanUp existing => exact (keepsTo_cleanUp hplain existing).map _
  | remove => exact (keepsTo_remove path []).map _

end Work

namespace Premises

/-! ### Two runs -/

/-- Whether a place is that of the file of another index. -/
def OfOthers (t : FileTree) (root name : String) (place : Location) : Prop :=
  ∃ other path, other ≠ name ∧ indexFile? root other = some path ∧ t.locate? path = some place

/-- **Whether two premises are alike** but for other indexes.  The directories are those that were
there at the start. -/
structure Alike (start : FileTree) (root name path : String) (s s' : Premises) : Prop where
  below : s.server.registry.root = root
  directories : SameDirectories start s.files
  files : FileTree.Alike (OfOthers start root name) s.files s'.files
  engine : s'.server.engine = s.server.engine
  registry : s.server.registry.Twins s.files name path s'.server.registry

section Steps
variable {start : FileTree} {root name path : String} {s s' : Premises} {α : Type}
  {target : String} {reads : List String} {op : FileTree → α × FileTree}

theorem Alike.below' (h : Alike start root name path s s') : s'.server.registry.root = root :=
  h.registry.root.trans h.below

/-! ### Steps -/

theorem take_work (h : indexFile? s.server.registry.root name = some path) (work : Work) :
    s.take (.work name work) = ((work.carryOut path s.files).1,
      { s with files := (work.carryOut path s.files).2 }) := by
  simp only [Premises.take, h]

theorem take_work_of_none (h : indexFile? s.server.registry.root name = none) (work : Work) :
    s.take (.work name work) = (.error (.indexUnavailable name), s) := by
  simp only [Premises.take, h]

theorem take_ask (s : Premises) (name question : String) : s.take (.ask name question) =
    ((s.server.registry.carryOut s.files name (s.server.engine.answer question)).1.map .answer,
      { s with server := { s.server with
          registry :=
            (s.server.registry.carryOut s.files name (s.server.engine.answer question)).2 } }) :=
  rfl

/-- Something is done with a file in both. -/
theorem Alike.changed (h : Alike start root name path s s') (hop : KeepsTo target reads op)
    (hreads : ∀ p ∈ target :: reads, LeadsElsewhere (OfOthers start root name) s.files p) :
    (op s'.files).1 = (op s.files).1 ∧ Alike start root name path
      { s with files := (op s.files).2 } { s' with files := (op s'.files).2 } := by
  obtain ⟨hsame, hafter⟩ := hop.alike h.files hreads
  have hdirectories := hop.sameDirectories s.files
  refine ⟨hsame, h.below, h.directories.trans hdirectories, hafter, h.engine,
    h.registry.settings, h.registry.kept, fun x hx file hfile => ?_⟩
  rw [hdirectories.locate?]
  exact h.registry.held x hx file hfile

/-- Something is done with the file of another index in the first. -/
theorem Alike.changed_elsewhere (h : Alike start root name path s s')
    (hop : KeepsTo target reads op)
    (hothers : ∀ place, s.files.locate? target = some place → OfOthers start root name place) :
    Alike start root name path { s with files := (op s.files).2 } s' := by
  have hdirectories := hop.sameDirectories s.files
  refine ⟨h.below, h.directories.trans hdirectories, (hop.elsewhere hothers).symm.trans h.files,
    h.engine, h.registry.settings, h.registry.kept, fun x hx file hfile => ?_⟩
  rw [hdirectories.locate?]
  exact h.registry.held x hx file hfile

theorem outcomes_cons_of_pos {step : Step} (h : step.remains name = true) (s : Premises)
    (rest : List Step) : outcomes name s (step :: rest) =
      (s.take step).1 :: outcomes name (s.take step).2 rest := by
  simp only [outcomes, h, if_true]

theorem outcomes_cons_of_neg {step : Step} (h : step.remains name = false) (s : Premises)
    (rest : List Step) : outcomes name s (step :: rest) = outcomes name (s.take step).2 rest := by
  simp [outcomes, h]

variable (hroot : IsPlainRoot root) (hnamed : indexFile? root name = some path)
include hroot hnamed

theorem Alike.leadsElsewhere (h : Alike start root name path s s') :
    LeadsElsewhere (OfOthers start root name) s.files path := by
  rintro place hplace ⟨other, path', hne, hother, hplace'⟩
  rw [h.directories.locate?] at hplace
  exact locate?_indexFile_ne hroot.nonempty hnamed hother hne.symm hplace hplace'

omit hnamed in
/-- A dump is in the file of no index. -/
theorem Alike.dump_leadsElsewhere (h : Alike start root name path s s') (file : DumpPath) :
    LeadsElsewhere (OfOthers start root name) s.files file.path := by
  rintro place hplace ⟨other, path', _, hother, hplace'⟩
  rw [h.directories.locate?] at hplace
  exact locate?_dump_ne hroot.nonempty hother file.isDump hplace hplace'

/-- **A step that names no other index** comes to the same in both, and leaves them alike. -/
theorem Alike.take (h : Alike start root name path s s') {step : Step}
    (hstep : step.remains name = true) :
    (s'.take step).1 = (s.take step).1 ∧
      Alike start root name path (s.take step).2 (s'.take step).2 := by
  have hplain := hroot.startsWith_indexFile hnamed
  have hpath := h.leadsElsewhere hroot hnamed
  have hdump (file : DumpPath) := h.dump_leadsElsewhere hroot file
  cases step with
  | work other work =>
    obtain rfl : other = name := by simpa [Step.remains] using hstep
    have hreads : ∀ p ∈ path :: work.reads.map DumpPath.path,
        LeadsElsewhere (OfOthers start root other) s.files p := by
      intro p hp
      rcases List.mem_cons.mp hp with rfl | hp
      · exact hpath
      · obtain ⟨file, _, rfl⟩ := List.mem_map.mp hp
        exact hdump file
    have hbelow : indexFile? s.server.registry.root other = some path := h.below.symm ▸ hnamed
    have hbelow' : indexFile? s'.server.registry.root other = some path := h.below'.symm ▸ hnamed
    rw [take_work hbelow, take_work hbelow']
    exact h.changed (work.keepsTo hplain) hreads
  | ask other question =>
    obtain rfl : other = name := by simpa [Step.remains] using hstep
    have hfiles := h.files.looksAlike hpath hplain
    obtain ⟨hsame, hregistry⟩ := h.registry.carryOut hfiles (h.below.symm ▸ hnamed)
      (s.server.engine.answer question)
    have hleaves := Registry.leavesOthers_carryOut s.server.registry s.files other
      (s.server.engine.answer question)
    obtain ⟨opened, hopened⟩ := hleaves.settings
    rw [take_ask, take_ask, h.engine]
    exact ⟨congrArg (Except.map Gain.answer) hsame, (congrArg Registry.root hopened).trans h.below,
      h.directories, h.files, h.engine, hregistry⟩
  | write file octets =>
    have hop := (keepsTo_write file.path octets).map (Except.map fun _ => Gain.nothing)
    exact h.changed hop fun p hp => List.mem_singleton.mp hp ▸ hdump file
  | delete file =>
    have hop := (keepsTo_remove file.path []).map (Except.map fun _ => Gain.nothing)
    exact h.changed hop fun p hp => List.mem_singleton.mp hp ▸ hdump file

omit hnamed in
/-- **A step that names another index**, or a name of none, is not noticed. -/
theorem Alike.take_other (h : Alike start root name path s s') {step : Step}
    (hstep : step.remains name = false) :
    Alike start root name path (s.take step).2 s' := by
  cases step with
  | work other work =>
    have hne : other ≠ name := by simpa [Step.remains] using hstep
    cases hother : indexFile? root other with
    | none =>
      rw [take_work_of_none (h.below.symm ▸ hother)]
      exact h
    | some path' =>
      rw [take_work (h.below.symm ▸ hother)]
      refine h.changed_elsewhere (work.keepsTo (hroot.startsWith_indexFile hother)) ?_
      intro place hplace
      rw [h.directories.locate?] at hplace
      exact ⟨other, path', hne, hother, hplace⟩
  | ask other question =>
    have hne : other ≠ name := by simpa [Step.remains] using hstep
    have hleaves := Registry.leavesOthers_carryOut s.server.registry s.files other
      (s.server.engine.answer question)
    obtain ⟨opened, hopened⟩ := hleaves.settings
    rw [take_ask]
    exact ⟨(congrArg Registry.root hopened).trans h.below, h.directories, h.files, h.engine,
      h.registry.of_leavesOthers hleaves hne.symm⟩
  | write file octets => cases hstep
  | delete file => cases hstep

/-- **Steps that name other indexes change nothing** about what the remaining ones come to. -/
theorem Alike.outcomes_filter (h : Alike start root name path s s') (run : List Step) :
    outcomes name s run = outcomes name s' (run.filter (Step.remains name)) := by
  induction run generalizing s s' with
  | nil => rfl
  | cons step rest ih =>
    cases hstep : step.remains name with
    | true =>
      obtain ⟨hsame, hafter⟩ := h.take hroot hnamed hstep
      rw [List.filter_cons_of_pos hstep, outcomes_cons_of_pos hstep, outcomes_cons_of_pos hstep,
        hsame, ih hafter]
    | false =>
      rw [List.filter_cons_of_neg (by simp [hstep]), outcomes_cons_of_neg hstep]
      exact ih (h.take_other hroot hstep)

end Steps

theorem Alike.refl {s : Premises} {root name path : String}
    (hroot : s.server.registry.root = root) (hopened : s.server.registry.opened = .empty) :
    Alike s.files root name path s s where
  below := hroot
  directories := .refl _
  files := .refl _ _
  engine := rfl
  registry := by
    refine ⟨⟨_, rfl⟩, rfl, fun x hx => ?_⟩
    rw [hopened] at hx
    cases hx

/-- **Indexes are isolated**, in a directory of a plain path.  A name of an index denotes a file
directly in the directory, different names denote different files, and if all steps that name other
indexes, or none, are taken out of a run, the rest come to the same. -/
theorem indexes_isolated {root : String} (hroot : IsPlainRoot root) :
    (∀ (t : FileTree) (name path : String) (place : Location), indexFile? root name = some path →
      t.Denotes path place → ∃ up, t.locate? root = some up ∧ t.isDirectoryAt up = true ∧
        place = up ++ [name ++ ".db"]) ∧
    (∀ name name' path path' : String, indexFile? root name = some path →
      indexFile? root name' = some path' → name ≠ name' → path ≠ path' ∧
        ∀ (t : FileTree) (place : Location), t.Denotes path place → ¬t.Denotes path' place) ∧
    ∀ (s : Premises) (name path : String) (run : List Step), s.server.registry.root = root →
      s.server.registry.opened = .empty → indexFile? root name = some path →
      outcomes name s run = outcomes name s (run.filter (Step.remains name)) := by
  refine ⟨?directly, ?apart, ?alone⟩
  case directly =>
    intro t name path place hnamed hdenotes
    have hplace := hdenotes.locate?_eq (hroot.startsWith_indexFile hnamed)
    rw [locate?_indexFile hroot.nonempty hnamed] at hplace
    obtain ⟨up, hup, hplace⟩ := Option.bind_eq_some_iff.mp hplace
    split at hplace
    · rename_i hdirectory
      exact ⟨up, hup, hdirectory, (Option.some.inj hplace).symm⟩
    · cases hplace
  case apart =>
    intro name name' path path' hnamed hnamed' hne
    refine ⟨?_, fun t place hdenotes hdenotes' => ?_⟩
    · rintro rfl
      exact hne (indexFile?_injective hroot.nonempty hnamed hnamed')
    · exact locate?_indexFile_ne hroot.nonempty hnamed hnamed' hne
        (hdenotes.locate?_eq (hroot.startsWith_indexFile hnamed))
        (hdenotes'.locate?_eq (hroot.startsWith_indexFile hnamed'))
  case alone =>
    intro s name path run hbelow hopened hnamed
    exact (Alike.refl hbelow hopened).outcomes_filter hroot hnamed run

/-! ### Two runs with two indexes -/

/-- The path of a dump. -/
def jawsDump : DumpPath := ⟨"./a.nt", by decide +kernel⟩

/-- An index that holds nothing yet, beside a dump, and a server for the directory under a path. -/
def besideJaws (root : String) : Premises where
  files := FileTree.withIndex Migration.fresh
  server := ⟨{ root, capacity := 64 }, {}⟩

/-- Things that are done with two indexes, one of which has no tables, and with a name of none. -/
def besideOthers : List Step := [
  .work "f" (.ingest {} 1 jawsDump "a.nt"),
  .work "g" (.ingest {} 2 jawsDump "a.nt"),
  .ask "g" "What is Jaws",
  .ask "f" "What is Jaws",
  .work "g" .remove,
  .ask "../f" "What is Jaws",
  .delete jawsDump,
  .work "f" (.cleanUp []),
  .ask "f" "What is Jaws"]

theorem indexes_isolated_jaws : IsPlainRoot "." ∧ outcomes "f" (besideJaws ".") besideOthers =
    [.ok (.takenIn ⟨2, 2, 0⟩), .ok (.answer "m.1: film film"), .ok .nothing, .ok (.removed 2),
      .error .notFound] := by
  have hroot : IsPlainRoot "." := ⟨by decide, by decide +kernel⟩
  have halone := (indexes_isolated hroot).2.2 (besideJaws ".") "f" "./f.db" besideOthers rfl rfl
    (by decide +kernel)
  refine ⟨hroot, halone.trans ?_⟩
  decide +kernel

/-- Taking a dump into an index of one name, and asking about another. -/
def throughUri : List Step :=
  [.work "file:f" (.ingest {} 1 jawsDump "a.nt"), .ask "f" "What is Jaws"]

/-- **Below an empty path, indexes are not isolated**: two names of indexes denote one file, and what
is taken into one index is told about the other. -/
theorem not_isolated_in_empty_root :
    indexFile? "" "f" = some "f.db" ∧ indexFile? "" "file:f" = some "file:f.db" ∧
    (besideJaws "").files.Denotes "f.db" ["f.db"] ∧
    (besideJaws "").files.Denotes "file:f.db" ["f.db"] ∧
    outcomes "f" (besideJaws "") throughUri ≠
      outcomes "f" (besideJaws "") (throughUri.filter (Step.remains "f")) := by
  have hopens : ((besideJaws "").files.opening? "file:f.db").map Opening.place = some ["f.db"] := by
    decide +kernel
  obtain ⟨o, ho, hplace⟩ := Option.map_eq_some_iff.mp hopens
  refine ⟨by decide +kernel, by decide +kernel, .leads (by decide +kernel), ?_, by decide +kernel⟩
  rw [← hplace]
  exact .opens ho

end Premises
end GraphAnswers
