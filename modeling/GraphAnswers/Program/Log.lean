import GraphAnswers.Program.Variables
import GraphAnswers.Text.Pattern.Notation
import GraphAnswers.Text.Words
/-!
# Records of a program

While it runs, a program leaves records of five levels.  Which of them are written is told by a text
of directives, separated by commas: a level, or the beginning of a source with its level
(`ingest=warn`).  The directive with the longest beginning that fits decides; a source without a
level is written in full.  What follows a slash is a pattern, which must occur in a record for it to
be written.  Other variables tell whether records are written in colours.
-/
namespace GraphAnswers

/-- How much a record matters, the most first. -/
inductive Level where
  | error
  | warn
  | info
  | debug
  | trace
  deriving DecidableEq, Repr

namespace Level

/-- The place of a level among the levels. -/
def rank : Level → Nat
  | error => 1
  | warn => 2
  | info => 3
  | debug => 4
  | trace => 5

/-- The name of a level. -/
def name : Level → String
  | error => "ERROR"
  | warn => "WARN"
  | info => "INFO"
  | debug => "DEBUG"
  | trace => "TRACE"

/-- The code of the colour of a level on a terminal. -/
def color : Level → String
  | error => "1;31"
  | warn => "33"
  | info => "32"
  | debug => "34"
  | trace => "36"

end Level

/-- Up to which level records of a source are written; zero writes none. -/
structure Log.Directive where
  /-- The beginning of the source's name; a directive without one is for every source. -/
  source : Option String
  upTo : Nat
  deriving DecidableEq, Repr

/-- Which records are written. -/
structure Log where
  directives : List Log.Directive
  /-- What must occur in a record. -/
  pattern : Option Text.Pattern := none
  /-- Whether records are written in colours. -/
  isColored : Bool := false

namespace Log

/-- The name of the variable that holds directives. -/
def directivesVariable : String := "RUST_LOG"

/-- The highest rank that a word names: that of a level, or zero for `off`. -/
def upTo? (word : String) : Option Nat :=
  if Text.sameLetters word "off" then some 0
  else ([Level.error, .warn, .info, .debug, .trace].find? fun l => Text.sameLetters word l.name).map
    Level.rank

/-- The directive of a text, if it is one. -/
def directive? (text : String) : Option Directive :=
  match (Text.splitWhere (· == '=') text.toList).map String.ofList with
  | [single] =>
    match upTo? single with
    | some upTo => some ⟨none, upTo⟩
    | none => some ⟨some single, Level.trace.rank⟩
  | [source, level] =>
    let level := Text.trim level
    if level.isEmpty then some ⟨some source, Level.trace.rank⟩
    else (upTo? level).map fun upTo => ⟨some source, upTo⟩
  | _ => none

/-- Adds a directive in place of one for the same source. -/
def insert (ds : List Directive) (d : Directive) : List Directive :=
  if ds.any (·.source == d.source) then ds.map fun e => if e.source = d.source then d else e
  else ds ++ [d]

/-- The directives of a list. -/
def directivesOf (list : String) : List Directive :=
  let parts := (Text.splitWhere (· == ',') list.toList).map fun p => Text.trim (String.ofList p)
  ((parts.filter (!·.isEmpty)).filterMap directive?).foldl insert []

/-- What a text of directives allows.  Without a directive, errors are written; a text with two
slashes has no directive.  A text after a slash that is no pattern is left out. -/
def ofText (text : String) : Log :=
  let standard (ds : List Directive) : List Directive :=
    if ds.isEmpty then [⟨none, Level.error.rank⟩] else ds
  match (Text.splitWhere (· == '/') text.toList).map String.ofList with
  | [list] => { directives := standard (directivesOf list) }
  | [list, pattern] =>
    { directives := standard (directivesOf list), pattern := Text.Pattern.ofText? pattern }
  | _ => { directives := standard [] }

/-- Whether a directive is for a source. -/
def Directive.fits (d : Directive) (source : String) : Bool :=
  d.source.all fun beginning => source.startsWith beginning

/-- How long the beginning of a directive is. -/
def Directive.length (d : Directive) : Nat := (d.source.getD "").utf8ByteSize

/-- Up to which rank records of a source are written: as the directive with the longest fitting
beginning says, and of several as long the last. -/
def rankFor (l : Log) (source : String) : Nat :=
  let fitting := l.directives.filter (·.fits source)
  let longest := (fitting.map Directive.length).foldl max 0
  match (fitting.filter (·.length == longest)).getLast? with
  | some d => d.upTo
  | none => 0

/-- Whether a record is written. -/
def writes (l : Log) (source : String) (level : Level) (text : String) : Bool :=
  decide (level.rank ≤ l.rankFor source) && l.pattern.all (·.occursIn text)

/-! ### Variables -/

/-- The name of the variable that asks for colours or forbids them. -/
def styleVariable : String := "RUST_LOG_STYLE"

/-- The name of a variable that forbids colours. -/
def plainVariable : String := "NO_COLOR"

/-- The name of a variable that asks for colours. -/
def colorVariable : String := "CLICOLOR_FORCE"

/-- The names of the variables on colours. -/
def colorVariables : List String := [styleVariable, plainVariable, colorVariable]

/-- Whether variables ask for colours; the first decides if it says `always` or `never`. -/
def areColored (vs : Variables) : Bool :=
  let isSet (name : String) : Bool := (vs.value? name).any (!·.isEmpty)
  match vs.value? styleVariable with
  | some "always" => true
  | some "never" => false
  | _ => !isSet plainVariable && isSet colorVariable

/-- What variables allow; without directives in them, what a text of directives does. -/
def ofVariables (vs : Variables) (standard : String) : Log :=
  { ofText ((vs.value? directivesVariable).getD standard) with
    isColored := areColored vs }

end Log

end GraphAnswers
