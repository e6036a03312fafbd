import GraphAnswers.Database
/-!
# Carrying out scripts

A migration changes an index file by a script, which is a text in the language of the database engine.
What a text means there is not said here: an `Execution` is any way to get from a text and a file to
what comes of it, and whatever is proved about migrations is proved for all of them.

A script is carried out when a transaction has just begun.  The file without what the transaction has
done is there as well, until the transaction ends: it is what is left when the transaction is given up.
A script may end its transaction itself, and then nothing of it can be given up.
-/
namespace GraphAnswers.Migration

/-- What has come of a script. -/
inductive Outcome where
  /-- A statement of it failed.  The transaction has to be given up, and leaves this file. -/
  | failed (saved : Database)
  /-- It succeeded, and its transaction is open: to give that up leaves the one file, and to end it
  the other. -/
  | succeeded (saved unsaved : Database)
  /-- It succeeded, and has ended its transaction. -/
  | ended (saved : Database)

/-- A way to carry out scripts: what comes of a text, on a file on which a transaction has begun. -/
abbrev Execution := String → Database → Outcome

/-- The execution of scripts of which one knows the statements.  Any other text fails. -/
def Execution.ofStatements (statements? : String → Option (List Statement)) : Execution :=
  fun text d =>
    match (statements? text).bind d.schema.applyAll with
    | some schema => .succeeded d { d with schema }
    | none => .failed d

end GraphAnswers.Migration
