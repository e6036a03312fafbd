import GraphAnswers.Database
import GraphAnswers.FileTree.Obstacle
import GraphAnswers.SortedMap
import GraphAnswers.Text.FileName
import GraphAnswers.Text.FileUri
/-!
# The files of an installation

A `FileTree` holds what lies below one directory: directories and files, by location, where a
location is the list of the names that lead to it.  A file holds octets or an index.  Paths are
texts; they start at the directory, pass through existing directories only, and may contain the
names `.` and `..`.  A path that starts with a slash leads through the directories that every system
has (`FileTree.system`); what else lies outside is unknown, and no path leads there.

A file that is removed while someone holds it stays readable to the holder, who does not see what
comes to its place later: a `FileTree.Handle` tells the files of one location apart.
-/
namespace GraphAnswers

/-- What a file holds. -/
inductive Content where
  | octets (octets : List UInt8)
  | index (database : Database)
  deriving DecidableEq, Repr

/-- The index that a file holds.  An empty file is an index without tables. -/
def Content.database? : Content → Option Database
  | octets [] => some .empty
  | octets _ => none
  | index database => some database

/-- What is at a location. -/
inductive Node where
  | directory
  | file (content : Content)
  /-- What reads like an empty file and is none. -/
  | device
  deriving DecidableEq, Repr

/-- The names that lead to a place, from the top. -/
abbrev Location := List String

/-- Directories and files, by location. -/
structure FileTree where
  nodes : SortedMap Location Node := .empty
  /-- What the files held that have been removed from a location, in the order of their removal. -/
  removed : SortedMap Location (List Content) := .empty

namespace FileTree

/-- A tree of nothing but the directory it starts from. -/
def empty : FileTree := {}

/-! ### Locations -/

/-- What is at a location. -/
def node? (t : FileTree) (place : Location) : Option Node :=
  if place.isEmpty then some .directory else t.nodes.find? place

/-- Whether a directory is at a location. -/
def isDirectoryAt (t : FileTree) (place : Location) : Bool := t.node? place == some .directory

/-- Sets what is at a location. -/
def set (t : FileTree) (place : Location) (node : Node) : FileTree :=
  { t with nodes := t.nodes.insert place node }

/-- Whether a file or directory can have a name: it is at most 255 bytes long and without NUL. -/
def isAllowedName (name : String) : Bool := name.utf8ByteSize ≤ 255 && !name.toList.contains '\x00'

/-- What every system has: some directories, and a device that holds nothing. -/
def system : FileTree :=
  let directories : List Location := [
    ["bin"], ["boot"], ["dev"], ["etc"], ["home"], ["lib"], ["media"], ["mnt"], ["opt"], ["proc"],
    ["root"], ["run"], ["sbin"], ["srv"], ["sys"], ["tmp"], ["usr"], ["usr", "bin"], ["usr", "lib"],
    ["usr", "local"], ["usr", "share"], ["var"], ["var", "log"], ["var", "tmp"]]
  (directories.foldl (fun t place => t.set place .directory) empty).set ["dev", "null"] .device

/-! ### Paths -/

/-- The location that names lead to from a location; all but the last must lead to directories. -/
def follow (t : FileTree) (place : Location) : List String → Option Location
  | [] => some place
  | name :: rest =>
    if !t.isDirectoryAt place then none
    else if name = "" || name = "." then follow t place rest
    else if name = ".." then if place.isEmpty then none else follow t place.dropLast rest
    else follow t (place ++ [name]) rest

/-- The location that a path leads to.  There may be nothing at it yet. -/
def locate? (t : FileTree) (path : String) : Option Location :=
  match Text.pathSteps path with
  | "" :: _ => none
  | steps => t.follow [] steps

/-- What a path leads to. -/
def find? (t : FileTree) (path : String) : Option Node :=
  match Text.pathSteps path with
  | "" :: steps => (system.follow [] steps).bind system.node?
  | steps => (t.follow [] steps).bind t.node?

/-- Whether a path leads to a file. -/
def isFile (t : FileTree) (path : String) : Bool :=
  match t.find? path with
  | some (.file _) => true
  | _ => false

/-- Whether a path leads to a directory. -/
def isDirectory (t : FileTree) (path : String) : Bool := t.find? path == some .directory

/-- The octets of a file. -/
def read (t : FileTree) (path : String) : Except Failure (List UInt8) :=
  match t.find? path with
  | some (.file (.octets octets)) => .ok octets
  | some .device => .ok []
  | _ => .error .io

/-- The text of a file. -/
def readText (t : FileTree) (path : String) : Except Failure String := do
  match Text.ofOctets? (← t.read path) with
  | some text => pure text
  | none => .error .io

/-! ### Directories -/

/-- What remains of a location after a location that leads to it. -/
def below? : Location → Location → Option Location
  | [], place => some place
  | _ :: _, [] => none
  | a :: upper, b :: place => if a = b then below? upper place else none

/-- What lies directly in a directory, in order of the names. -/
def entries (t : FileTree) (directory : Location) : List (String × Node) :=
  t.nodes.toList.filterMap fun (place, node) =>
    match below? directory place with
    | some [name] => some (name, node)
    | _ => none

/-- The files anywhere below a directory, in order of the names on the way, each with its location
from there. -/
def filesBelow (t : FileTree) (directory : Location) : List (Location × List UInt8) :=
  t.nodes.toList.filterMap fun (place, node) =>
    match below? directory place, node with
    | some rest, .file (.octets octets) => some (rest, octets)
    | _, _ => none

/-! ### Obstacles -/

/-- Whether names lead no further. -/
def isStay (names : List String) : Bool := names.all fun name => name = "" || name = "."

/-- Why no file can be read where names lead from a location.  Above the tree there are directories,
of which nothing is known but those on the way to the tree. -/
def obstacleFrom (t : FileTree) (place : Location) : List String → Obstacle
  | [] => .directory
  | name :: rest =>
    if name = "" || name = "." then obstacleFrom t place rest
    else if name = ".." then
      if place.isEmpty then
        if rest.all fun name => name = "" || name = "." || name = ".." then .directory else .absent
      else obstacleFrom t place.dropLast rest
    else if !isAllowedName name then .longName
    else
      match t.node? (place ++ [name]) with
      | none => .absent
      | some .directory => obstacleFrom t (place ++ [name]) rest
      | some _ => .fileOnWay

/-- Why no file can be read at a path. -/
def obstacle (t : FileTree) (path : String) : Obstacle :=
  match Text.pathSteps path with
  | "" :: steps => system.obstacleFrom [] steps
  | steps => t.obstacleFrom [] steps

/-! ### Changes -/

/-- Makes the directories that names lead through, as far as they are not there. -/
def makeFrom (t : FileTree) (place : Location) : List String → Except Obstacle FileTree
  | [] => .ok t
  | name :: rest =>
    if name = "" || name = "." then makeFrom t place rest
    else if name = ".." then
      if place.isEmpty then .error .outside else makeFrom t place.dropLast rest
    else
      let place := place ++ [name]
      match t.node? place with
      | some .directory => makeFrom t place rest
      | some _ => .error (if isStay rest then .occupied else .fileOnWay)
      | none =>
        if isAllowedName name then makeFrom (t.set place .directory) place rest
        else .error .longName

/-- Makes the directories of a path, as far as they are not there.  None can be made outside the
tree. -/
def makeDirectories (t : FileTree) (path : String) : Except Obstacle FileTree :=
  if path.toList.contains '\x00' then .error .zero
  else
    match Text.pathSteps path with
    | "" :: steps => do
      let made ← system.makeFrom [] steps
      if made.nodes.size = system.nodes.size then pure t else .error .outside
    | steps => t.makeFrom [] steps

/-- The location of a file that is, or can be, at a path, and its content so far. -/
def place? (t : FileTree) (path : String) : Option (Location × Option Content) :=
  match t.locate? path with
  | none => none
  | some place =>
    match t.node? place with
    | some (.file content) => some (place, some content)
    | some _ => none
    | none => if place.all isAllowedName then some (place, none) else none

/-- Writes a file into a directory that is there. -/
def write (t : FileTree) (path : String) (octets : List UInt8) : Except Failure FileTree :=
  match t.place? path with
  | some (place, _) => .ok (t.set place (.file (.octets octets)))
  | none => .error .io

/-- Writes a file, and makes the directories it lies in. -/
def save (t : FileTree) (path : String) (octets : List UInt8) : Except Failure FileTree :=
  match t.makeDirectories (Text.parentPath path) with
  | .ok t => t.write path octets
  | .error _ => .error .io

/-- What the files held that were at a location, in order, the present one included. -/
def contentsAt (t : FileTree) (place : Location) : List Content :=
  (t.removed.find? place).getD [] ++
    match t.node? place with
    | some (.file content) => [content]
    | _ => []

/-- Removes a file. -/
def remove (t : FileTree) (path : String) : Except Failure FileTree :=
  match t.place? path with
  | some (place, some _) =>
    .ok { nodes := t.nodes.erase place, removed := t.removed.insert place (t.contentsAt place) }
  | _ => .error .io

/-! ### Held files -/

/-- A file, told from those that were at its location before and those that will be. -/
structure Handle where
  place : Location
  /-- How many files were removed from the location before. -/
  number : Nat
  deriving DecidableEq, Repr

/-- The file that is at a location, or the next one that will be. -/
def handle (t : FileTree) (place : Location) : Handle :=
  ⟨place, ((t.removed.find? place).getD []).length⟩

/-- What a held file holds. -/
def contentOf? (t : FileTree) (h : Handle) : Option Content := (t.contentsAt h.place)[h.number]?

/-! ### Index files

An index file is opened by a path or by a file URI, and a file is made where none is.  While it is
changed, a journal lies beside it, under its name with an ending. -/

/-- How an index file is opened. -/
structure Opening where
  place : Location
  /-- Whether a file is made where none is. -/
  makes : Bool := true
  /-- Whether the file can be changed. -/
  changes : Bool := true

/-- The greatest length of the path of an index file, in bytes. -/
def maxIndexPath : Nat := 488

/-- Takes an option of a file URI into account.  One that is not known does not count, and one that has
no such value is refused. -/
def Opening.withOption (o : Opening) (option : String × String) : Option Opening :=
  match option with
  | ("mode", "rwc") => some { o with makes := true, changes := true }
  | ("mode", "rw") => some { o with makes := false, changes := true }
  | ("mode", "ro") => some { o with makes := false, changes := false }
  | ("mode", _) => none
  | ("cache", value) => if value = "shared" ∨ value = "private" then some o else none
  | ("vfs", value) => if value = "unix" then some o else none
  | _ => some o

/-- How the index file at a path is opened, if it can be. -/
def opening? (t : FileTree) (path : String) : Option Opening := do
  let (path, options) ←
    if path.startsWith "file:" then do
      let uri ← Text.FileUri.ofList? (path.toList.drop 5)
      pure (uri.path, uri.options)
    else some (path, [])
  let (place, _) ← t.place? path
  if maxIndexPath < (Text.join "/" place).utf8ByteSize then none
  else options.foldlM Opening.withOption { place }

/-- Whether a journal can lie beside a file. -/
def hasRoomForJournal (place : Location) : Bool := isAllowedName (place.getLastD "" ++ "-journal")

/-- The index at a location.  Where no file is, there is an empty one. -/
def databaseAt? (t : FileTree) (place : Location) : Option Database :=
  ((t.contentOf? (t.handle place)).getD (.octets [])).database?

/-- Carries out an operation on the index file at a path.  If there is no file, an empty one is
made first. -/
def onIndex {α : Type} (t : FileTree) (path : String) (operation : Database.Operation α) :
    Except Failure α × FileTree :=
  match t.opening? path with
  | none => (.error .database, t)
  | some o =>
    if !o.makes && (t.node? o.place).isNone then (.error .database, t)
    else
      match t.databaseAt? o.place with
      | none => (.error .database, t)
      | some before =>
        let (outcome, after) := operation before
        if !hasRoomForJournal o.place then (.error .database, t.set o.place (.file (.index before)))
        else if !o.changes && after != before then (.error .database, t)
        else (outcome, t.set o.place (.file (.index after)))

/-- Removes dumps from the index file at a path.  To remove none does not open the file. -/
def removeDumps (t : FileTree) (path : String) (dumps : List String) : Except Failure Nat × FileTree :=
  if dumps.isEmpty then (.ok 0, t) else t.onIndex path (Database.deleteDumps dumps)

/-- Takes in the dump in a file, under the path by which the index at another path is to know it.  A
file that cannot be read does not open the index. -/
def ingest (t : FileTree) (index : String) (options : IngestOptions) (now : Nat)
    (file path : String) : Except Failure IngestStats × FileTree :=
  match t.read file with
  | .error failure => (.error failure, t)
  | .ok octets =>
    t.onIndex index (Database.ingest options now { path, name := Text.fileName file, octets })

/-- The index that the file at a path holds. -/
def database? (t : FileTree) (path : String) : Option Database := do
  t.databaseAt? (← t.opening? path).place

/-- The longest time, in milliseconds, that a reader can be told to wait for an index file. -/
def maxPatience : Nat := 2147483647

/-- Reads a held index file, with a time to wait for it.  No reader can wait too long a time. -/
def readHeld {α : Type} (t : FileTree) (patience : Nat) (h : Handle)
    (read : Database → Except Failure α) : Except Failure α :=
  match ((t.contentOf? h).getD (.octets [])).database? with
  | none => .error .database
  | some database => if patience ≤ maxPatience then read database else .error .io

/-- The file that is held by whoever opens the index file at a path. -/
def openIndex (t : FileTree) (path : String) : Except Failure Handle :=
  match t.opening? path with
  | some o => .ok (t.handle o.place)
  | none => .error .database

/-- The state of the index file at a path. -/
def indexState (t : FileTree) (path : String) : Except Failure IndexState := do
  if t.isFile path then t.readHeld 0 (← t.openIndex path) Database.state
  else .error (.indexUnavailable path)

end FileTree

end GraphAnswers
