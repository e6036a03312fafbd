import GraphAnswers.Text.Words
/-!
# The schema of an index file

The tables of a file, each with its columns, and the names of the file's secondary indexes.  Tables
and secondary indexes share one space of names, in which the case of ASCII letters does not matter.
A statement creates one of either, or fails and leaves the schema as it was; a script is a list of
statements of which all or none take effect.
-/
namespace GraphAnswers

/-- A table and its columns. -/
structure Table where
  name : String
  columns : List String
  deriving DecidableEq, Repr

/-- Whether a table has a column. -/
def Table.hasColumn (t : Table) (column : String) : Bool := t.columns.any (Text.sameLetters column)

/-- The tables and the secondary indexes of a file, in the order in which they were created. -/
structure Schema where
  tables : List Table := []
  indexes : List String := []
  deriving DecidableEq, Repr

/-- A change of a schema. -/
inductive Statement where
  /-- Creates a table.  If there is one of this name, that is a failure unless `ifAbsent`. -/
  | createTable (ifAbsent : Bool) (table : Table)
  /-- Creates a secondary index over columns of a table. -/
  | createIndex (ifAbsent : Bool) (name table : String) (columns : List String)
  deriving DecidableEq, Repr

namespace Schema

/-- Whether a name is set aside for the file's own bookkeeping. -/
def isSetAside (name : String) : Bool :=
  Text.sameLetters (String.ofList (name.toList.take 7)) "sqlite_"

/-- The table of a name. -/
def table? (s : Schema) (name : String) : Option Table :=
  s.tables.find? fun t => Text.sameLetters t.name name

/-- Whether there is a secondary index of a name. -/
def hasIndex (s : Schema) (name : String) : Bool := s.indexes.any (Text.sameLetters name)

/-- Whether there is a table of a name that has all of some columns. -/
def hasColumns (s : Schema) (name : String) (columns : List String) : Bool :=
  (s.table? name).any fun t => columns.all t.hasColumn

/-- The names of the tables, in order. -/
def tableNames (s : Schema) : List String := (s.tables.map Table.name).mergeSort

/-- Whether no name is given twice. -/
def distinct : List String → Bool
  | [] => true
  | name :: rest => !rest.any (Text.sameLetters name) && distinct rest

/-- Creates a table. -/
def createTable (s : Schema) (ifAbsent : Bool) (table : Table) : Option Schema :=
  if isSetAside table.name then none
  else if (s.table? table.name).isSome then if ifAbsent then some s else none
  else if s.hasIndex table.name || !distinct table.columns then none
  else some { s with tables := s.tables ++ [table] }

/-- Creates a secondary index; its table and columns must exist. -/
def createIndex (s : Schema) (ifAbsent : Bool) (name table : String) (columns : List String) :
    Option Schema :=
  match s.table? table with
  | none => none
  | some found =>
    if isSetAside name || (s.table? name).isSome then none
    else if s.hasIndex name then if ifAbsent then some s else none
    else if columns.all found.hasColumn then some { s with indexes := s.indexes ++ [name] }
    else none

/-- The schema after a statement, unless the statement fails. -/
def apply (s : Schema) : Statement → Option Schema
  | .createTable ifAbsent table => s.createTable ifAbsent table
  | .createIndex ifAbsent name table columns => s.createIndex ifAbsent name table columns

/-- The schema after a script, unless one of its statements fails. -/
def applyAll (s : Schema) (script : List Statement) : Option Schema := script.foldlM apply s

end Schema

end GraphAnswers
