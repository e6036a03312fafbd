import GraphAnswers.FileTree
/-!
# Index files as octets

How an index is written down: a first line that says what the file is, and a line for every table,
secondary index, migration, row and record of a dump, and for what else the file holds.  A line is made
of fields with tabs in between; in a field a backslash, a tab and an end of line are written with a
backslash.
-/
namespace GraphAnswers.Archive

/-! ### Fields and lines -/

/-- How a character is written in a field. -/
def encodeChar (c : Char) : List Char :=
  if c = '\\' then ['\\', '\\']
  else if c = '\t' then ['\\', 't']
  else if c = '\n' then ['\\', 'n']
  else if c = '\r' then ['\\', 'r']
  else [c]

/-- The characters of a field as it is written. -/
def decodeChars : List Char → Option (List Char)
  | [] => some []
  | '\\' :: c :: rest =>
    let meant : Option Char :=
      if c = '\\' then some '\\'
      else if c = 't' then some '\t'
      else if c = 'n' then some '\n'
      else if c = 'r' then some '\r'
      else none
    match meant, decodeChars rest with
    | some c, some cs => some (c :: cs)
    | _, _ => none
  | c :: rest => if c = '\\' then none else (decodeChars rest).map (c :: ·)

/-- A line of fields. -/
def line (fields : List String) : List Char :=
  List.intercalate ['\t'] (fields.map fun f => f.toList.flatMap encodeChar)

/-- The fields of a line. -/
def fields? (cs : List Char) : Option (List String) :=
  (Text.splitWhere (· == '\t') cs).mapM fun f => (decodeChars f).map String.ofList

/-! ### Indexes -/

/-- The first line of an index file. -/
def header : String := "graph answers index"

/-- The fields of the lines of an index, the first line left out. -/
def entries (d : Database) : List (List String) :=
  d.schema.tables.map (fun t => "table" :: t.name :: t.columns) ++
  d.schema.indexes.map (fun name => ["index", name]) ++
  d.applied.map (fun m => ["migration", toString m.1, m.2]) ++
  d.store.rows.map (fun r =>
    ["row", r.triple.subject, r.triple.predicate, r.triple.object, r.dump]) ++
  d.store.dumps.map (fun e =>
    ["dump", e.id, e.path, e.hash, toString e.tripleCount, toString e.ingestedAt]) ++
  if d.others.isEmpty then [] else [["others", d.others]]

/-- The octets of an index. -/
def encode (d : Database) : List UInt8 :=
  Text.octets (String.ofList ((header.toList :: (entries d).map line).flatMap (· ++ ['\n'])))

/-- Adds what a line says. -/
def add (d : Database) : List String → Option Database
  | "table" :: name :: columns =>
    some { d with schema.tables := d.schema.tables ++ [{ name, columns }] }
  | ["index", name] => some { d with schema.indexes := d.schema.indexes ++ [name] }
  | ["migration", version, name] => do
    pure { d with applied := d.applied ++ [(← version.toNat?, name)] }
  | ["row", subject, predicate, object, dump] =>
    let row : Row := ⟨⟨subject, predicate, object⟩, dump⟩
    some { d with store.rows := d.store.rows ++ [row] }
  | ["dump", id, path, hash, tripleCount, ingestedAt] => do
    let entry : DumpRecord := {
      id, path, hash, tripleCount := ← tripleCount.toInt?, ingestedAt := ← ingestedAt.toNat? }
    pure { d with store.dumps := d.store.dumps ++ [entry] }
  | ["others", text] => some { d with others := text }
  | _ => none

/-- The index that octets stand for. -/
def decode? (octets : List UInt8) : Option Database := do
  let text ← Text.ofOctets? octets
  match (Text.splitWhere (· == '\n') text.toList).dropLast with
  | first :: rest =>
    if first = header.toList then
      (← rest.mapM fields?).foldlM add .empty
    else none
  | [] => none

/-- What a file with some octets holds. -/
def content (octets : List UInt8) : Content :=
  match decode? octets with
  | some d => .index d
  | none => .octets octets

/-- The octets of a file. -/
def octetsOf : Content → List UInt8
  | .octets octets => octets
  | .index d => encode d

end GraphAnswers.Archive
