/-!
# TOML values

What a settings file in TOML holds: tables of keys and values.  A table grows line by line, and how
it came about decides what may be added to it later: a table written out in braces is closed, one
that a header opened cannot be opened again, and one that came about through a dotted key can be
extended by dotted keys only.  `Toml.insert`, `Toml.openTable` and `Toml.openElement` keep these
rules and give nothing when one of them is broken.
-/
namespace GraphAnswers

/-- How a table came about. -/
inductive Toml.Origin where
  /-- A header opened it. -/
  | header
  /-- It lies on the way to a table that a header opened. -/
  | implied
  /-- It lies on the way of a dotted key. -/
  | dotted
  /-- It was written out in braces. -/
  | braces
  deriving DecidableEq, Repr

/-- A value of a settings file.  Numbers with a fraction and moments are told apart from others, but
what they are is not kept. -/
inductive Toml where
  | text (s : String)
  | integer (i : Int)
  | fraction
  | boolean (b : Bool)
  | moment
  /-- A list of values; one `ofTables` grows by headers in double brackets. -/
  | array (ofTables : Bool) (items : List Toml)
  | table (origin : Toml.Origin) (entries : List (String × Toml))
  deriving Repr

namespace Toml

/-- Keys and their values, each key once. -/
abbrev Entries := List (String × Toml)

/-- Changes the value of a key, or adds one. -/
def put (entries : Entries) (key : String) (value : Toml) : Entries :=
  if (entries.lookup key).isSome then entries.map fun e => if e.1 = key then (key, value) else e
  else entries ++ [(key, value)]

/-! ### Dotted keys -/

/-- Adds a value under the last key of a path, with a new table for each key on the way that is
missing.  `isDotted` says that the table was reached by a dotted key. -/
def insertFrom (isDotted : Bool) (key : String) (value : Toml) :
    List String → Origin → Entries → Option Entries
  | [], origin, entries =>
    if (entries.lookup key).isSome || (isDotted && origin != .dotted) then none
    else some (entries ++ [(key, value)])
  | step :: path, _, entries =>
    match entries.lookup step with
    | none => do
      let inner ← insertFrom true key value path .dotted []
      pure (entries ++ [(step, .table .dotted inner)])
    | some (.table origin inner) =>
      if origin = .implied ∨ origin = .dotted then do
        let inner ← insertFrom true key value path origin inner
        pure (put entries step (.table origin inner))
      else none
    | some _ => none

/-- Adds a value under a dotted key. -/
def insert (entries : Entries) (path : List String) (value : Toml) : Option Entries :=
  match path.getLast? with
  | none => none
  | some key => insertFrom false key value path.dropLast .header entries

/-! ### Headers -/

/-- Changes the table that a path of headers leads to.  A path leads through tables, and through the
last element of a list of tables; tables that are missing are made. -/
def within (change : Entries → Option Entries) : List String → Entries → Option Entries
  | [], entries => change entries
  | step :: path, entries =>
    match entries.lookup step with
    | none => do
      pure (entries ++ [(step, .table .implied (← within change path []))])
    | some (.table origin inner) =>
      if origin = .braces then none
      else do pure (put entries step (.table origin (← within change path inner)))
    | some (.array true items) =>
      match items.reverse with
      | .table origin inner :: before => do
        let last := .table origin (← within change path inner)
        pure (put entries step (.array true (before.reverse ++ [last])))
      | _ => none
    | some _ => none

/-- Opens the table of a header. -/
def openTable (path : List String) (entries : Entries) : Option Entries :=
  match path.getLast? with
  | none => none
  | some key => within (make key) path.dropLast entries
where
  /-- Opens the table of one key. -/
  make (key : String) (entries : Entries) : Option Entries :=
    match entries.lookup key with
    | none => some (entries ++ [(key, .table .header [])])
    | some (.table .implied inner) => some (put entries key (.table .header inner))
    | some _ => none

/-- Opens a new element of the list of a header in double brackets. -/
def openElement (path : List String) (entries : Entries) : Option Entries :=
  match path.getLast? with
  | none => none
  | some key => within (make key) path.dropLast entries
where
  /-- Adds an element to the list of one key. -/
  make (key : String) (entries : Entries) : Option Entries :=
    match entries.lookup key with
    | none => some (entries ++ [(key, .array true [.table .header []])])
    | some (.array true items) =>
      some (put entries key (.array true (items ++ [.table .header []])))
    | some _ => none

end Toml

end GraphAnswers
