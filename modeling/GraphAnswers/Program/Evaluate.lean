import GraphAnswers.Evaluation
import GraphAnswers.Program.Arguments
import GraphAnswers.Program.Statistics
import GraphAnswers.Server
/-!
# The program that evaluates an installation

It asks the question of every case, in order, compares the replies with the expected ones, and prints
how many are correct.  It ends with code 1 if the accuracy is below a threshold.
-/
namespace GraphAnswers.Program.Evaluate

/-- The name of the program, and the source of its records. -/
def source : String := "eval"

/-- The switches. -/
def switches : List Switch := [
  { name := "cases", takesValue := true },
  { name := "threshold", takesValue := true },
  .help]

/-- How the program is called. -/
def usage : List String := [
  "Evaluation framework: run question cases and report accuracy",
  "",
  "Usage: eval [OPTIONS]",
  "",
  "Options:",
  "      --cases <CASES>          Path to eval cases JSON (default: eval_cases.json) " ++
    "[default: eval_cases.json]",
  "      --threshold <THRESHOLD>  Minimum accuracy (0.0-1.0) for a zero exit code [default: 0.9]",
  "  -h, --help                   Print help"]

/-- What is asked of the program. -/
structure Request where
  casesPath : String
  threshold : Single

/-- What arguments ask of the program; it may end here.  What is wrong in front of the switch that asks
for help comes first. -/
def requested (call : Invocation) : Program Request := do
  match Arguments.read? switches call.arguments with
  | none => refuse
  | some given =>
    if !given.others.isEmpty then refuse
    let casesPath := (given.value? "cases").getD "eval_cases.json"
    match Single.ofText? ((given.value? "threshold").getD "0.9") with
    | none => refuse
    | some threshold =>
      if casesPath.isEmpty then refuse
      if given.has "help" then
        usage.forM print
        throw (.exit 0)
      pure { casesPath, threshold }

/-- The cases of a file. -/
def cases (path : String) : Program (List EvalCase) := do
  let files ← files
  match files.readText path with
  | .error _ =>
    let reason := if files.isFile path then "stream did not contain valid UTF-8"
      else (files.obstacle path).message
    fail ("Failed to read " ++ path ++ ": " ++ reason)
  | .ok text =>
    match EvalCase.listOfSource? text with
    | none => fail "Invalid eval cases JSON: the cases cannot be read"
    | some [] => fail ("No cases in " ++ path)
    | some cases => pure cases

/-- The server that settings describe. -/
def serverOf (settings : Settings) : Server where
  registry := {
    root := settings.indexRoot
    capacity := settings.cacheCapacity
    patience := settings.lookupTimeout }
  engine := ⟨settings.catalog, settings.labelLanguage⟩

/-- Asks the questions of cases, and reports on each; gives what passed, by category. -/
def askAll (settings : Settings) (server : Server) : List EvalCase → Program (List (String × Bool))
  | [] => pure []
  | c :: rest => do
    let index := c.index.getD settings.defaultIndex
    let (reply, server) := server.reply (← files) { index, question := c.question }
    let passed := c.isCorrect reply
    print ("  [" ++ (if passed then "PASS" else "FAIL") ++ "] " ++ c.question)
    if !passed then
      print ("        expected: " ++ Text.quoted c.expected)
      print ("        got:      " ++ Text.quoted reply)
    pure ((c.categoryName, passed) :: (← askAll settings server rest))

/-- The line about a category. -/
def categoryLine (category : String) (s : Evaluation.Score) : String :=
  Statistics.padRight 20 category ++ " " ++ Statistics.padLeft 3 (toString s.passed) ++ "/" ++
    Statistics.padRight 3 (toString s.total) ++ " " ++ s.accuracy.percent.toFixed 2 ++ "%"

/-- The program. -/
def program (call : Invocation) : Program Unit := do
  let request ← requested call
  let settings ← settings call
  let cases ← cases request.casesPath
  print ("Running evaluation on " ++ toString cases.length ++ " cases\n")
  let outcomes ← askAll settings (serverOf settings) cases
  let overall := (Evaluation.score (outcomes.map Prod.snd)).accuracy
  print "\n=== Evaluation Results ==="
  (Evaluation.byCategory outcomes).toList.forM fun e => print (categoryLine e.1 e.2)
  print ("Accuracy: " ++ overall.percent.toFixed 2 ++ "%")
  let threshold := request.threshold.percent.toFixed 0
  if request.threshold.le overall then
    print ("\nAccuracy passes (>= " ++ threshold ++ "%).")
  else
    print ("\nAccuracy below threshold (>= " ++ threshold ++ "%).")
    throw (.exit 1)

/-- A call of the program. -/
def transcript (call : Invocation) (files : FileTree) : Transcript :=
  run (program call) (.ofVariables call.environment "") source files

end GraphAnswers.Program.Evaluate
