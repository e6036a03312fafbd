import GraphAnswers.Dump.Token
import GraphAnswers.Index.Queries
import GraphAnswers.Triple
/-!
# From a dump line to a triple

A line gives a triple when three parts or more can be read from it: the subject, the predicate, and
the parts of the object.  Of an IRI or a bare word only the local name is kept, a tagged literal
becomes its text and its tag, and the dot that ends the statement is no part of it.  The object is
the rest of the parts joined by spaces, cut off after the part with which it reaches a given length
in bytes.  The name of a type is reduced to its last two words.
-/
namespace GraphAnswers.Dump

open GraphAnswers.Text

/-- What follows the last `/` or `#`. -/
def localName (cs : List Char) : List Char := afterLast (fun c => c == '/' || c == '#') cs

/-- Reads escaped quotes; every other escape is kept as written. -/
def unescapeQuotes : List Char → List Char
  | [] => []
  | '\\' :: '"' :: cs => '"' :: unescapeQuotes cs
  | c :: cs => c :: unescapeQuotes cs

/-- What a token contributes to the statement; the lone dot contributes nothing. -/
def Token.part : Token → List Char
  | iri inside => localName inside
  | literal body none => trimmed (unescapeQuotes body)
  | literal body (some language) => trimmed (unescapeQuotes body) ++ ' ' :: '@' :: language
  | bare word => if word = ['.'] then [] else localName word

/-- The parts of a line that are not empty. -/
def partsOf (line : List Char) : List (List Char) :=
  ((Token.ofText line).map Token.part).filter (!·.isEmpty)

/-- Takes the dot that ends a statement off a part: a single one, and not the whole part. -/
def dropStop (part : List Char) : List Char :=
  match part.reverse with
  | '.' :: '.' :: _ => part
  | '.' :: rest => if rest.isEmpty then part else rest.reverse
  | _ => part

/-- Takes the dot that ends a statement off the last part. -/
def dropFinalStop : List (List Char) → List (List Char)
  | [] => []
  | [last] => [dropStop last]
  | part :: rest => part :: dropFinalStop rest

/-- Parts joined by spaces after `object`, until `cap` bytes are reached. -/
def joinUpTo (cap : Nat) (object : List Char) : List (List Char) → List Char
  | [] => object
  | part :: rest =>
    if cap ≤ byteLength object then object
    else joinUpTo cap (if object.isEmpty then part else object ++ ' ' :: part) rest

/-- The last two words of the name of a type, where dots and underscores separate words too. -/
def reduceType (name : String) : String :=
  let found := Text.words (replaceWhere (fun c => c == '.' || c == '_') ' ' name)
  unwords (found.drop (found.length - 2))

/-- The triple of a line whose object is cut off at `cap` bytes; none for a line that is blank, a
comment, or too short. -/
def scan (cap : Nat) (line : String) : Option Triple :=
  match trimmed line.toList with
  | [] => none
  | '#' :: _ => none
  | cs =>
    match partsOf cs with
    | subject :: predicate :: part :: rest =>
      let object := String.ofList (joinUpTo cap [] (dropFinalStop (part :: rest)))
      let predicate := String.ofList predicate
      some {
        subject := String.ofList subject
        predicate
        object := if predicate = Field.type then reduceType object else object }
    | _ => none

end GraphAnswers.Dump
