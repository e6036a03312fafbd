import GraphAnswers.Failure
import GraphAnswers.Text.Utf8
import GraphAnswers.Text.Words
/-!
# Requests and replies on a connection

A request is a run of lines that ends with a line `END`, or with the connection.  The first line
names an index, the others are the question.  A reply is a text followed by a line `END`.  Reading a
request takes nothing of what follows its last line.
-/
namespace GraphAnswers

/-- A question for a named index. -/
structure Request where
  index : String
  question : String
  deriving DecidableEq, Repr

namespace Frame

/-- The line that ends requests and replies. -/
def terminator : String := "END"

/-- A line of a question: without its blank margins, and ended. -/
def questionLine (line : String) : String := Text.trim line ++ "\n"

/-- The request that lines make up. -/
def ofLines : List String → Except Failure Request
  | [] => .error (.protocol "empty request")
  | first :: rest =>
    let index := Text.trim first
    if index.isEmpty then .error (.protocol "missing index name")
    else .ok { index, question := String.join (rest.map questionLine) }

/-- The octets of the first line, and those after its end. -/
def firstLine (octets : List UInt8) : List UInt8 × List UInt8 :=
  (octets.takeWhile (· != 10), (octets.dropWhile (· != 10)).drop 1)

theorem length_firstLine_lt {octets : List UInt8} (h : octets ≠ []) :
    (firstLine octets).2.length < octets.length := by
  cases octets with
  | nil => exact absurd rfl h
  | cons o os =>
    by_cases ho : o = 10
    · subst ho; simp [firstLine]
    · have := (List.dropWhile_sublist (p := (· != 10)) (l := os)).length_le
      simp [firstLine, ho]
      omega

/-- The lines up to the terminator, without carriage returns at their ends, and the octets after it.
A line that is no text fails, once it has been read. -/
def readLines (octets : List UInt8) : Except Failure (List String) × List UInt8 :=
  if _h : octets = [] then (.ok [], [])
  else
    let rest := (firstLine octets).2
    match Text.ofOctets? (firstLine octets).1 with
    | none => (.error .io, rest)
    | some line =>
      let content := String.ofList (Text.dropEndWhile (· == '\r') line.toList)
      if content = terminator then (.ok [], rest)
      else
        let (more, unread) := readLines rest
        (more.map (content :: ·), unread)
termination_by octets.length
decreasing_by exact length_firstLine_lt _h

/-- The request that octets open with, and the octets after it. -/
def readRequest (octets : List UInt8) : Except Failure Request × List UInt8 :=
  let (lines, unread) := readLines octets
  (lines.bind ofLines, unread)

/-- A reply as it is sent. -/
def reply (text : String) : String := text ++ "\n" ++ terminator ++ "\n"

end Frame

end GraphAnswers
