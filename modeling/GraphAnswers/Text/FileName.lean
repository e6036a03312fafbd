import GraphAnswers.Text.Words
/-!
# Names of files

A path is a run of names between slashes, and the extension of a name is what follows its last dot.
-/
namespace GraphAnswers.Text

/-- What follows the last dot of a file name, unless the dot opens the name. -/
def extension? (name : String) : Option String :=
  match splitLast? '.' name.toList with
  | some (_ :: _, extension) => some (String.ofList extension)
  | _ => none

/-- The names of a path, between its slashes. -/
def pathSteps (path : String) : List String :=
  (splitWhere (· == '/') path.toList).map String.ofList

/-- The last name of a path. -/
def fileName (path : String) : String := (pathSteps path).getLastD ""

/-- A path without its last name. -/
def parentPath (path : String) : String := join "/" (pathSteps path).dropLast

/-- A path that goes on from a directory.  A path that opens with a slash starts anew. -/
def joinPath (directory path : String) : String :=
  if directory.isEmpty || path.startsWith "/" then path
  else if directory.endsWith "/" then directory ++ path
  else directory ++ "/" ++ path

end GraphAnswers.Text
