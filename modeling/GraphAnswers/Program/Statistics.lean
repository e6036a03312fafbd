import GraphAnswers.Program
/-!
# The program that shows what an index holds

It prints how many triples there are for each predicate, about how many subjects, and the dumps that
were taken in.
-/
namespace GraphAnswers.Program.Statistics

/-- The name of the program, and the source of its records. -/
def source : String := "stats"

/-- A text filled up with spaces at the end. -/
def padRight (width : Nat) (s : String) : String :=
  s ++ String.ofList (List.replicate (width - s.length) ' ')

/-- A text filled up with spaces in front. -/
def padLeft (width : Nat) (s : String) : String :=
  String.ofList (List.replicate (width - s.length) ' ') ++ s

/-- What is counted for a predicate. -/
structure Usage where
  predicate : String
  triples : Nat
  subjects : Nat
  deriving DecidableEq, Repr

/-- The rows counted by predicate: the most frequent first, and in order of their names those that
are equally frequent. -/
def usages (rows : List Row) : List Usage :=
  let predicates := (SortedSet.ofList (rows.map fun r => r.triple.predicate)).toList
  let counted := predicates.map fun predicate =>
    let own := rows.filter fun r => r.triple.predicate == predicate
    { predicate, triples := own.length
      subjects := (SortedSet.ofList (own.map fun r => r.triple.subject)).size : Usage }
  counted.mergeSort fun a b => decide (b.triples ≤ a.triples)

/-- What the program shows of an index. -/
def read (d : Database) : Except Failure (List Usage × List DumpRecord) := do
  let rows ← d.rows
  let dumps ← d.dumps
  pure (usages rows, dumps.mergeSort fun a b => decide (a.path ≤ b.path))

/-- A line across. -/
def rule : String := String.ofList (List.replicate 80 '-')

/-- The lines about predicates. -/
def predicateLines (found : List Usage) : List String :=
  let line (predicate triples subjects : String) : String :=
    padRight 50 predicate ++ " " ++ padLeft 12 triples ++ " " ++ padLeft 14 subjects
  let total := found.foldr (fun u n => u.triples + n) 0
  ["Triples per predicate (" ++ toString total ++ " total):", "", rule,
    line "Predicate" "Triples" "Subjects", rule] ++
  (found.map fun u => line u.predicate (toString u.triples) (toString u.subjects)) ++ [rule]

/-- The lines about dumps. -/
def dumpLines (showTime : Nat → String) (dumps : List DumpRecord) : List String :=
  let line (path triples time : String) : String :=
    padRight 46 path ++ " " ++ padLeft 10 triples ++ "  " ++ time
  ["", "Recorded dumps:", "", line "Dump" "Triples" "Ingested at", rule] ++
  (dumps.map fun d => line d.path (toString d.tripleCount) (showTime d.ingestedAt)) ++ [""]

/-- How the program shows what is wrong with an index file: that it is none, or which table it
lacks. -/
def complaint (content : Option Database) : String :=
  let (code, number, text) := match content with
    | none => ("NotADatabase", "26", "file is not a database")
    | some d => ("Unknown", "1", "no such table: " ++ if d.needRows.isOk then "dumps" else "triples")
  "Database(SqliteFailure(Error \x7b code: " ++ code ++ ", extended_code: " ++ number ++
    " \x7d, Some(" ++ Text.quoted text ++ ")))"

/-- What the program shows of an index file, or the end of the program. -/
def contents (path : String) : Program (List Usage × List DumpRecord) := do
  match ← attempt path (Database.reading read) with
  | .ok found => pure found
  | .error _ => fail (complaint ((← files).database? path))

/-- The program. -/
def program (call : Invocation) : Program Unit := do
  let settings ← settings call
  let name := call.arguments.headD settings.defaultIndex
  let path ← indexPath settings name
  if !(← files).isFile path then
    fail (Text.quoted ("Index " ++ name ++ " not found at " ++ path))
  print ("\n=== FactQA Index Statistics: " ++ name ++ " ===\n")
  let (found, dumps) ← contents path
  if found.isEmpty then
    print "The index holds no triples."
    print "\nRun the ingest binary to load a dump."
  else
    (predicateLines found).forM print
    (dumpLines call.showTime dumps).forM print

/-- A call of the program. -/
def transcript (call : Invocation) (files : FileTree) : Transcript :=
  run (program call) (.ofVariables call.environment "info") source files

end GraphAnswers.Program.Statistics
