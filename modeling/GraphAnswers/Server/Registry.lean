import GraphAnswers.FileTree
import GraphAnswers.Index.Cache
/-!
# The indexes of a directory

A registry opens the indexes of a directory by name and keeps a cache of look-ups for each.  Whenever
an index is asked for, its state is compared with the state seen last: if dumps have been taken in or
removed since, the cache is cleared.  An index is closed when it is asked for while its file is gone.
Until then its file is held: if the file is removed and another one made in its place, the index goes
on with the one that was removed.
-/
namespace GraphAnswers

/-- The path of the index of a name below a directory.  A name that is empty, opens with a dot or
holds a slash or backslash names no index. -/
def indexFile? (root name : String) : Option String :=
  if name.isEmpty || name.startsWith "." || name.toList.any (fun c => c == '/' || c == '\\') then none
  else some (Text.joinPath root (name ++ ".db"))

/-- A held index file, as it is now, as an index. -/
def FileTree.index (files : FileTree) (patience : Nat) (h : FileTree.Handle) : Index where
  property lookup := files.readHeld patience h fun d => d.index.property lookup
  topics term language := files.readHeld patience h fun d => d.index.topics term language

/-- The index file at a path, as it is now, as an index. -/
def FileTree.indexAt (files : FileTree) (patience : Nat) (path : String) : Index where
  property lookup := do (files.index patience (← files.openIndex path)).property lookup
  topics term language := do (files.index patience (← files.openIndex path)).topics term language

/-- What is kept of an index that was asked for. -/
structure OpenIndex where
  cache : LookupCache
  /-- The state of the index when it was last asked for. -/
  state : IndexState
  /-- The file that is held.  After a change of state there is none until the next look-up. -/
  held : Option FileTree.Handle

/-- The indexes of a directory. -/
structure Registry where
  /-- The directory. -/
  root : String
  /-- The capacity of the caches. -/
  capacity : Nat
  /-- How long an index file is waited for, in milliseconds. -/
  patience : Nat := 5000
  opened : SortedMap String OpenIndex := .empty

namespace Registry

/-- The names of the open indexes, in order. -/
def names (r : Registry) : List String := r.opened.keys

/-- Keeps an index open. -/
def keep (r : Registry) (name : String) (x : OpenIndex) : Registry :=
  { r with opened := r.opened.insert name x }

/-- Closes an index. -/
def close (r : Registry) (name : String) : Registry := { r with opened := r.opened.erase name }

/-- Whether the index of a name cannot be opened because no cache has the capacity asked for. -/
def lacksRoom (r : Registry) (name : String) : Bool :=
  (LookupCache.ofCapacity? r.capacity).isNone && (r.opened.find? name).isNone

/-- The file of an open index, or the one that is opened for it. -/
def fileOf (files : FileTree) (x : OpenIndex) (path : String) : Except Failure FileTree.Handle :=
  match x.held with
  | some h => .ok h
  | none => files.openIndex path

/-- Asks for an index that is open. -/
def revisit (r : Registry) (files : FileTree) (name path : String) (x : OpenIndex) :
    Except Failure OpenIndex × Registry :=
  match fileOf files x path with
  | .error failure => (.error failure, r)
  | .ok h =>
    match files.readHeld r.patience h Database.state with
    | .error failure => (.error failure, r.keep name { x with held := some h })
    | .ok state =>
      let x := if x.state = state then { x with held := some h }
        else { cache := x.cache.clear, state, held := none }
      (.ok x, r.keep name x)

/-- Opens an index. -/
def openNew (r : Registry) (files : FileTree) (name path : String) :
    Except Failure OpenIndex × Registry :=
  let opened : Except Failure OpenIndex := do
    let h ← files.openIndex path
    match LookupCache.ofCapacity? r.capacity with
    | none => .error .io
    | some cache =>
      let state ← files.readHeld r.patience h Database.state
      pure { cache, state, held := some h }
  (opened, match opened with
    | .ok x => r.keep name x
    | .error _ => r)

/-- Asks for the index of a name. -/
def get (r : Registry) (files : FileTree) (name : String) : Except Failure OpenIndex × Registry :=
  match indexFile? r.root name with
  | none => (.error (.indexUnavailable name), r)
  | some path =>
    if files.isFile path then
      match r.opened.find? name with
      | some x => r.revisit files name path x
      | none => r.openNew files name path
    else (.error (.indexUnavailable name), r.close name)

/-- Carries out an inquiry against an open index, through its cache.  The first look-up holds the file
if it is not held. -/
def consult {α : Type} (r : Registry) (files : FileTree) (name path : String) (x : OpenIndex)
    (inquiry : Inquiry α) : Except Failure α × Registry :=
  match inquiry, fileOf files x path with
  | .done outcome, _ => (outcome, r)
  | _, .error failure => (.error failure, r)
  | inquiry, .ok h =>
    let (outcome, cache) := inquiry.runCached (files.index r.patience h) x.cache
    (outcome, r.keep name { x with cache, held := some h })

/-- Carries out an inquiry against the index of a name, through its cache. -/
def carryOut {α : Type} (r : Registry) (files : FileTree) (name : String) (inquiry : Inquiry α) :
    Except Failure α × Registry :=
  match r.get files name with
  | (.error failure, r) => (.error failure, r)
  | (.ok x, r) => r.consult files name ((indexFile? r.root name).getD "") x inquiry

end Registry

end GraphAnswers
