import GraphAnswers.FileTree
/-!
# Finding dumps

The dumps of a path: of a directory, all files anywhere below it that have the extension of a dump;
of a file, the file itself if it has.  A dump is known by its path from that directory, in which
backslashes count as slashes.
-/
namespace GraphAnswers

namespace Dump

/-- The path by which a dump at a location is known. -/
def pathOf (place : Location) : String :=
  Text.replaceWhere (· == '\\') '/' (Text.join "/" place)

/-- The dump in a file, if the file is one. -/
def ofFile? (place : Location) (octets : List UInt8) : Option DumpFile :=
  let name := place.getLastD ""
  if isDumpName name then some { path := pathOf place, name, octets } else none

/-- The dumps of a path, in order of the names on the way. -/
def discover (files : FileTree) (root : String) : Except Failure (List DumpFile) :=
  match files.find? root with
  | none => .error (absent root)
  | some node =>
    match files.locate? root, node with
    | some place, .directory => .ok ((files.filesBelow place).filterMap fun f => ofFile? f.1 f.2)
    | some place, .file (.octets octets) => .ok (ofFile? [place.getLastD ""] octets).toList
    | _, _ => .ok []
where
  /-- The failure for a path that leads to nothing. -/
  absent (root : String) : Failure := .config ("Dump path does not exist: " ++ root)

/-- Discovered dumps against the recorded digests: which are new, which have changed since they were
taken in, and which have not. -/
structure Classification where
  new : List DumpFile := []
  modified : List DumpFile := []
  unchanged : List DumpFile := []

/-- Classifies dumps by the digests recorded for their paths. -/
def classify (dumps : List DumpFile) (hashes : List (String × String)) : Classification where
  new := dumps.filter fun d => (hashes.lookup d.path).isNone
  modified := dumps.filter fun d => (hashes.lookup d.path).any (· != contentHash d.octets)
  unchanged := dumps.filter fun d => (hashes.lookup d.path).any (· == contentHash d.octets)

end Dump

end GraphAnswers
