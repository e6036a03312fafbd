import GraphAnswers.Dump.Lines
import GraphAnswers.Migration
import GraphAnswers.Program.Evaluate
import GraphAnswers.Program.Ingest
/-!
# The program that asks, serves and verifies

`ask` answers the questions of its input, one on each line, all with one cache.  `serve` listens for
requests.  Any other command, or none, verifies that an index is there and has the tables it needs.
-/
namespace GraphAnswers.Program.Console

/-- The name of the program, and the source of its records. -/
def source : String := "factqa"

/-- The version of the program. -/
def version : String := "1.0.0"

/-! ### Asking -/

/-- Answers questions one after another. -/
def answerEach (engine : Engine) (index : Index) : List String → LookupCache → Program Unit
  | [], _ => pure ()
  | question :: rest, cache => do
    if (Text.trim question).isEmpty then answerEach engine index rest cache
    else
      let (outcome, cache) := (engine.answer question).runCached index cache
      match outcome with
      | .ok _ => pure ()
      | .error failure => record .debug (question ++ ": " ++ failure.message)
      print (Server.told outcome)
      answerEach engine index rest cache

/-- Answers the lines of the input, up to the first that is no text. -/
def ask (call : Invocation) (name : Option String) : Program Unit := do
  let settings ← settings call
  let name := name.getD settings.defaultIndex
  let path ← indexPath settings name
  let files ← files
  if !files.isFile path then expect (.error (.indexUnavailable path))
  let some cache := LookupCache.ofCapacity? settings.cacheCapacity | throw (.exit aborted)
  inform ("Asking index " ++ name ++ " (" ++ path ++ ")")
  let lines := (Dump.splitLines call.input).map Text.ofOctets?
  let readable := (lines.takeWhile Option.isSome).filterMap id
  let engine : Engine := ⟨settings.catalog, settings.labelLanguage⟩
  let index := files.indexAt settings.lookupTimeout path
  answerEach engine index readable cache
  if readable.length < lines.length then fail "stream did not contain valid UTF-8"

/-! ### Serving -/

/-- Says what would be served.  There is nothing here to listen with. -/
def serve (call : Invocation) : Program Unit := do
  inform ("Starting FactQA server v" ++ version)
  let settings ← settings call
  inform ("Index root: " ++ settings.indexRoot)
  inform ("Language: " ++ settings.labelLanguage.tag)
  expect (.error .io)

/-! ### Verifying -/

/-- Fails if an index lacks tables, and warns of migrations that are not applied. -/
def checkSchema (report : SchemaReport) : Program Unit := do
  report.missing.forM fun table => record .error ("Missing table: " ++ table)
  if !report.missing.isEmpty then expect (.error (.config "Not all required tables exist"))
  record .debug ("✓ " ++ toString report.applied.length ++ " migrations applied")
  report.pending.forM fun name =>
    record .warn ("Migration " ++ name ++ " not applied; re-run ingest to update the index")

/-- Verifies an index, and says how much it holds. -/
def verify (call : Invocation) (name : Option String) : Program Unit := do
  inform ("Starting FactQA v" ++ version)
  let settings ← settings call
  inform "Configuration loaded successfully"
  let name := name.getD settings.defaultIndex
  let path ← indexPath settings name
  inform ("Index path: " ++ path)
  if !(← files).isFile path then
    fail ("Index " ++ name ++ " not found at " ++ path ++ ". Build it with the ingest binary first.")
  let known := Migration.load (← files) Ingest.migrationsPath
  checkSchema (← carryOut path (Database.reading (Migration.inspect known)))
  inform "✓ Index integrity: OK"
  let store ← carryOut path (Database.reading fun d => .ok d.store)
  inform ("✓ Index " ++ name ++ " verified: " ++ toString store.rows.length ++ " triples from " ++
    toString store.dumps.length ++ " dump(s)")

/-! ### The program -/

/-- The program. -/
def program (call : Invocation) : Program Unit :=
  match call.arguments with
  | "serve" :: _ => serve call
  | "ask" :: rest => ask call rest.head?
  | _ :: rest => verify call rest.head?
  | [] => verify call none

/-- Which records are written: as a variable says or, failing that, the settings.  None are written
where the program ends before it comes to that. -/
def logOf (call : Invocation) (files : FileTree) : Log :=
  match environment? call files with
  | none => { directives := [] }
  | some found =>
    let level := match Settings.ofFile files (settingsPath found) with
      | .ok settings => settings.logLevel
      | .error _ => "info"
    .ofVariables found level

/-- A call of the program. -/
def transcript (call : Invocation) (files : FileTree) : Transcript :=
  run (program call) (logOf call files) source files

end GraphAnswers.Program.Console
