import GraphAnswers.Failure
import GraphAnswers.Gzip.Member
import GraphAnswers.Text.FileName
import GraphAnswers.Text.Utf8
/-!
# Dumps and their lines

A dump is a file of lines in UTF-8, or such a file compressed.  Which files are dumps, and which
dumps are compressed, is told by the extension of the name.  Lines are read one by one: a line that
is no text fails, and so does a compressed file that is damaged, but neither keeps the lines before
it from being read.
-/
namespace GraphAnswers

/-- A dump: the path by which an index knows it, the name of its file, and its content. -/
structure DumpFile where
  path : String
  name : String
  octets : List UInt8
  deriving DecidableEq, Repr

namespace Dump

/-- The extensions of dump files. -/
def extensions : List String := ["nt", "ttl", "tsv", "txt", "triples", "gz"]

/-- Whether a file is taken for a dump, by its name. -/
def isDumpName (name : String) : Bool :=
  (Text.extension? name).any fun extension => extensions.any (Text.sameLetters extension)

/-- Whether a dump is compressed, by its name. -/
def isCompressed (name : String) : Bool := (Text.extension? name).any (Text.sameLetters · "gz")

/-- Octets cut into lines; an end of line may be led by a carriage return, and what follows the last
end of line is a line unless it is empty. -/
def splitLines (octets : List UInt8) : List (List UInt8) :=
  match (Text.splitWhere (· == 10) octets).reverse with
  | [] => []
  | last :: complete =>
    let complete := complete.reverse.map fun line =>
      match line.reverse with
      | 13 :: rest => rest.reverse
      | _ => line
    if last.isEmpty then complete else complete ++ [last]

/-- The text of a line. -/
def lineText (octets : List UInt8) : Except Failure String :=
  match Text.ofOctets? octets with
  | some line => .ok line
  | none => .error .io

end Dump

/-- The lines of a dump. -/
def DumpFile.lines (d : DumpFile) : List (Except Failure String) :=
  if Dump.isCompressed d.name then
    match Gzip.content? d.octets with
    | some content => (Dump.splitLines content).map Dump.lineText
    | none => [.error .io]
  else (Dump.splitLines d.octets).map Dump.lineText

end GraphAnswers
