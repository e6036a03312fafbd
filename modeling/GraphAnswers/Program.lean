import GraphAnswers.Migration.Standard
import GraphAnswers.Program.Log
import GraphAnswers.Program.Variables
import GraphAnswers.Settings
/-!
# Programs

A program is called with arguments, finds variables set, reads an input and works on the files below
one directory; how scripts are carried out there is part of the call.  It prints, leaves records,
changes files, and ends: by itself, or by a failure, which is shown in one line.  What it did up to its
end is its `Transcript`.
-/
namespace GraphAnswers

/-- What a program is called with. -/
structure Invocation where
  arguments : List String := []
  input : List UInt8 := []
  environment : Variables := []
  /-- The time, later than that of any call before. -/
  now : Nat := 0
  /-- How a time is shown. -/
  showTime : Nat → String := toString
  /-- How the scripts of migrations are carried out. -/
  execute : Migration.Execution := Migration.standardExecution

/-- What a program has done so far. -/
structure Program.Session where
  files : FileTree
  output : String := ""
  records : List (Level × String) := []

/-- How a program ends before its end. -/
inductive Program.Ending where
  /-- By a failure that is shown. -/
  | failure (message : String)
  /-- With an exit code, without more words. -/
  | exit (code : Nat)
  deriving DecidableEq, Repr

/-- A program, or a part of one, that gives a value. -/
abbrev Program (α : Type) := ExceptT Program.Ending (StateM Program.Session) α

/-- What a call of a program came to. -/
structure Transcript where
  exitCode : Nat
  output : String
  records : List (Level × String)
  /-- The failure that ended the program. -/
  failure : Option String
  /-- Whether the records are written in colours. -/
  isColored : Bool := false
  files : FileTree

namespace Program

variable {α : Type}

/-! ### Parts of programs -/

/-- Ends the program with a failure. -/
def fail (message : String) : Program α := throw (.failure message)

/-- Ends the program with the code for wrong arguments. -/
def refuse : Program α := throw (.exit 2)

/-- Prints a line. -/
def print (line : String) : Program Unit :=
  modify fun s => { s with output := s.output ++ line ++ "\n" }

/-- Leaves a record. -/
def record (level : Level) (text : String) : Program Unit :=
  modify fun s => { s with records := s.records ++ [(level, text)] }

/-- Leaves a record of what goes as it should. -/
def inform (text : String) : Program Unit := record .info text

/-- The files as they are. -/
def files : Program FileTree := do pure (← get).files

/-- A value, or the end of the program by a failure. -/
def expect : Except Failure α → Program α
  | .ok a => pure a
  | .error failure => fail failure.message

/-- Carries out an operation on an index file; its outcome may be a failure. -/
def attempt (path : String) (operation : Database.Operation α) : Program (Except Failure α) := do
  let (outcome, files) := (← files).onIndex path operation
  modify fun s => { s with files }
  pure outcome

/-- Carries out an operation on an index file, and ends the program if that fails. -/
def carryOut (path : String) (operation : Database.Operation α) : Program α := do
  expect (← attempt path operation)

/-! ### Settings -/

/-- The exit code of a program that cannot go on. -/
def aborted : Nat := 101

/-- The variables that a program finds, with those of the file beside it; `none` if one of these cannot
be set. -/
def environment? (call : Invocation) (files : FileTree) : Option Variables :=
  match files.read ".env" with
  | .ok octets => call.environment.readFile octets
  | .error _ => some call.environment

/-- The name of the variable that holds the path of the settings file. -/
def settingsVariable : String := "FACTQA_CONFIG"

/-- The path of the settings file. -/
def settingsPath (vs : Variables) : String :=
  (vs.value? settingsVariable).getD "config.toml"

/-- The settings, or the end of the program. -/
def settings (call : Invocation) : Program Settings := do
  let files ← files
  match environment? call files with
  | none => throw (.exit aborted)
  | some found =>
    let path := settingsPath found
    match Settings.ofFile files path with
    | .ok settings => pure settings
    | .error .unreadable => fail ("Failed to read config file: " ++ path)
    | .error .malformed => fail ("Failed to parse " ++ path)
    | .error (.refused reason) => fail reason

/-- The path of an index, or the end of the program. -/
def indexPath (settings : Settings) (name : String) : Program String :=
  match settings.indexPath name with
  | .ok path => pure path
  | .error message => fail message

/-! ### Calls -/

/-- The transcript of a program that runs on files.  Of its records, those of its source that the log
writes are kept. -/
def run (program : Program Unit) (log : Log) (source : String) (files : FileTree) : Transcript :=
  let (outcome, s) := StateT.run (ExceptT.run program) { files }
  let (exitCode, failure) := match outcome with
    | .ok () => (0, none)
    | .error (.failure message) => (1, some message)
    | .error (.exit code) => (code, none)
  { exitCode, failure
    output := s.output
    records := s.records.filter fun r => log.writes source r.1 r.2
    isColored := log.isColored
    files := s.files }

end Program

end GraphAnswers
