import GraphAnswers.Database.Archive
import GraphAnswers.Program.Console
import GraphAnswers.Program.Evaluate
import GraphAnswers.Program.Ingest
import GraphAnswers.Program.Statistics
/-!
# The command line

The first argument names a program: `ingest`, `stats` or `eval`; without such a name the arguments are
those of the program that asks, serves and verifies.  The program works on the current directory,
which is read before the call and written afterwards, as far as it has changed.
-/
namespace GraphAnswers.CommandLine

/-- The transcript of the program that arguments name. -/
def transcript (call : Invocation) (files : FileTree) : Transcript :=
  match call.arguments with
  | "ingest" :: arguments => Program.Ingest.transcript { call with arguments } files
  | "stats" :: arguments => Program.Statistics.transcript { call with arguments } files
  | "eval" :: arguments => Program.Evaluate.transcript { call with arguments } files
  | _ => Program.Console.transcript call files

/-- The time of the next call: times are counted, and each dump taken in is later than the ones
before. -/
def nextTime (files : FileTree) : Nat :=
  let times := files.nodes.toList.flatMap fun e =>
    match e.2 with
    | .file (.index d) => d.store.dumps.map DumpRecord.ingestedAt
    | _ => []
  times.max?.getD 0 + 1

/-- Adds the entries of a directory, and what lies below them. -/
partial def load (entries : Array IO.FS.DirEntry) (place : Location) (files : FileTree) :
    IO FileTree := do
  let mut files := files
  for entry in entries do
    let place := place ++ [entry.fileName]
    if ← entry.path.isDir then
      files ← load (← entry.path.readDir) place (files.set place .directory)
    else
      let octets ← IO.FS.readBinFile entry.path
      files := files.set place (.file (Archive.content octets.toList))
  return files

/-- Writes what has changed. -/
def store (before after : FileTree) : IO Unit := do
  for (place, node) in after.nodes.toList do
    if before.node? place != some node then
      let path := Text.join "/" place
      match node with
      | .directory => IO.FS.createDirAll path
      | .file content => IO.FS.writeBinFile path ⟨(Archive.octetsOf content).toArray⟩
      | .device => pure ()

/-- The rest of a stream. -/
partial def readAll (stream : IO.FS.Stream) (sofar : ByteArray) : IO ByteArray := do
  let more ← stream.read 65536
  if more.isEmpty then return sofar else readAll stream (sofar ++ more)

/-- The variables that programs look at. -/
def environment : IO Variables := do
  let mut found : Variables := []
  for name in [Program.settingsVariable, Log.directivesVariable] ++ Log.colorVariables do
    if let some value ← IO.getEnv name then found := found ++ [(name, value)]
  return found

/-- How a record is shown. -/
def shown (isColored : Bool) (level : Level) (text : String) : String :=
  let name := level.name
  (if isColored then "\x1b[" ++ level.color ++ "m" ++ name ++ "\x1b[0m" else name) ++ " " ++ text

end GraphAnswers.CommandLine

open GraphAnswers in
def main (arguments : List String) : IO UInt32 := do
  let before ← CommandLine.load (← (← IO.currentDir).readDir) [] .empty
  let input ← match arguments with
    | "ask" :: _ => CommandLine.readAll (← IO.getStdin) .empty
    | _ => pure .empty
  let call : Invocation := {
    arguments, input := input.toList, environment := ← CommandLine.environment
    now := CommandLine.nextTime before }
  let t := CommandLine.transcript call before
  CommandLine.store before t.files
  for (level, text) in t.records do
    IO.eprintln (CommandLine.shown t.isColored level text)
  IO.print t.output
  if let some message := t.failure then
    IO.eprintln ("Error: " ++ message)
  return UInt32.ofNat t.exitCode
