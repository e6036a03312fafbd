/-!
# Failures

Why a request was not fulfilled.  The first group of causes lies in the question, the second in the
store, the settings and the connection.  A failure has two texts: `message` describes it, `reply` is
the fixed sentence that a client is told.
-/
namespace GraphAnswers

/-- The causes for which a request fails. -/
inductive Failure where
  /-- The question has fewer words than its form needs. -/
  | malformedQuestion
  /-- The question has none of the known forms. -/
  | unrecognizedForm
  /-- An identifier breaks the rule of its kind. -/
  | invalidIdentifier (detail : String)
  /-- A look-up found nothing. -/
  | notFound
  /-- There are anchors, and the person filter rejected all of them. -/
  | wrongInputType (detail : String)
  /-- The count of a quantity question is no positive number. -/
  | nonNumericQuantity (word : String)
  /-- The number of the term does not agree with the count. -/
  | grammarMismatch (detail : String)
  /-- A stored label has no language tag. -/
  | untaggedLabel (label : String)
  /-- The catalog has no entry for the term. -/
  | unknownTerm (term : String)
  /-- The index file refused an operation. -/
  | database
  /-- A file or stream could not be read or written. -/
  | io
  /-- Settings, or the files that belong to an installation, are wrong. -/
  | config (detail : String)
  /-- The named index does not exist or cannot be opened. -/
  | indexUnavailable (name : String)
  /-- The answer was not there in time. -/
  | timeout (milliseconds : Nat)
  /-- A request breaks the rules of the line protocol. -/
  | protocol (detail : String)
  deriving DecidableEq, Repr

namespace Failure

/-- The description of a failure. -/
def message : Failure → String
  | malformedQuestion => "Malformed question"
  | unrecognizedForm => "Unrecognized question form"
  | invalidIdentifier detail => "Invalid identifier: " ++ detail
  | notFound => "Not found"
  | wrongInputType detail => "Wrong input type: " ++ detail
  | nonNumericQuantity word => "Non-numeric quantity: " ++ word
  | grammarMismatch detail => "Grammar mismatch: " ++ detail
  | untaggedLabel label => "Label without language tag: " ++ label
  | unknownTerm term => "Unknown predicate term: " ++ term
  | database => "Database error: the index file refused the operation"
  | io => "IO error: a file or stream could not be read or written"
  | config detail => "Configuration error: " ++ detail
  | indexUnavailable name => "Index unavailable: " ++ name
  | timeout milliseconds => "Timed out after " ++ toString milliseconds ++ " ms"
  | protocol detail => "Protocol error: " ++ detail

/-- The fixed sentence that a client is told. -/
def reply : Failure → String
  | malformedQuestion | unrecognizedForm => "Request not processable!"
  | invalidIdentifier _ => "Invalid identifier!"
  | notFound | unknownTerm _ => "Data not found!"
  | wrongInputType _ => "Invalid type!"
  | nonNumericQuantity _ => "Error in data formulation!"
  | grammarMismatch _ => "Grammar mistake!"
  | untaggedLabel _ => "Language not supported!"
  | timeout _ => "Request timed out!"
  | database | io | config _ | indexUnavailable _ | protocol _ =>
    "I was unable to process your request!"

/-- Whether nothing else happened than that a look-up found nothing. -/
def isNotFound : Failure → Bool
  | notFound => true
  | _ => false

end Failure

end GraphAnswers
