import GraphAnswers.Catalog
import GraphAnswers.FileTree
import GraphAnswers.Language
import GraphAnswers.Server.Registry
import GraphAnswers.Settings.Toml.Document
import GraphAnswers.Text.Numeral
import GraphAnswers.Text.Quoted
/-!
# Settings

The settings of an installation, read from a file in TOML: where the indexes are and how questions
are asked, how requests are served, how dumps are taken in, and terms that the catalog gets in
addition.  All but the place of the indexes have values of their own when they are left out.  Keys
that mean nothing are passed over.  `Settings.check` refuses settings that cannot be used, and says
why.
-/
namespace GraphAnswers

/-- A term for the catalog. -/
structure Settings.Term where
  term : String
  entry : Catalog.Entry
  deriving DecidableEq, Repr

/-- The settings of an installation. -/
structure Settings where
  /-- The directory of the indexes. -/
  indexRoot : String
  /-- The index that is asked when none is named. -/
  defaultIndex : String := "index"
  language : String := "@en"
  logLevel : String := "info"
  /-- Where requests are listened for. -/
  bind : String := "127.0.0.1"
  port : Nat := 8080
  /-- How long a question may take, in milliseconds. -/
  lookupTimeout : Nat := 5000
  /-- How many look-ups are remembered for each index. -/
  cacheCapacity : Nat := 1000
  /-- How many triples are inserted at once. -/
  batchSize : Nat := 1000
  /-- The length in bytes at which an object is cut off. -/
  maxObjectLength : Nat := 512
  /-- The predicates to keep; none keeps all. -/
  ingestPredicates : List String := []
  terms : List Settings.Term := []
  deriving DecidableEq, Repr

/-- Why there are no settings. -/
inductive Settings.Problem where
  /-- The file cannot be read. -/
  | unreadable
  /-- The file is no settings file. -/
  | malformed
  /-- The settings cannot be used. -/
  | refused (reason : String)
  deriving DecidableEq, Repr

namespace Settings

/-! ### Reading groups of settings

A group is a table with a value for each of its settings.  A list will do as well: it gives the
values in order. -/

/-- A group of settings, by the order of the settings or by their names. -/
inductive Group where
  | inOrder (values : List Toml)
  | byName (entries : Toml.Entries)

/-- The group that a value gives.  A moment gives a group that sets nothing. -/
def Group.ofToml? : Toml → Option Group
  | .table _ entries => some (.byName entries)
  | .array _ items => some (.inOrder items)
  | .moment => some (.byName [])
  | _ => none

/-- The value for the setting of a name, which is the `n`th of the group. -/
def Group.value? (g : Group) (n : Nat) (name : String) : Option Toml :=
  match g with
  | inOrder values => values[n]?
  | byName entries => entries.lookup name

/-- A text. -/
def text? : Toml → Option String
  | .text s => some s
  | _ => none

/-- A natural number up to a bound. -/
def natural? (bound : Nat) : Toml → Option Nat
  | .integer i => if 0 ≤ i ∧ i ≤ bound then some i.toNat else none
  | _ => none

/-- A list. -/
def list? {α : Type} (item : Toml → Option α) : Toml → Option (List α)
  | .array _ items => items.mapM item
  | _ => none

/-- A setting that must be there. -/
def Group.needed {α : Type} (g : Group) (n : Nat) (name : String) (read : Toml → Option α) :
    Option α :=
  (g.value? n name).bind read

/-- A setting that may be left out. -/
def Group.orElse {α : Type} (g : Group) (n : Nat) (name : String) (read : Toml → Option α)
    (default : α) : Option α :=
  match g.value? n name with
  | some value => read value
  | none => some default

/-- A term for the catalog.  In a list, all three parts must be there. -/
def term? (value : Toml) : Option Term := do
  let g ← Group.ofToml? value
  let term ← g.needed 0 "term" text?
  let predicate ← g.needed 1 "predicate" text?
  let collection ← match g with
    | .inOrder _ => (g.needed 2 "collection" text?).map some
    | .byName _ => g.orElse 2 "collection" (fun v => (text? v).map some) none
  pure { term, entry := { predicate, collection } }

/-- The settings of a document. -/
def ofEntries? (entries : Toml.Entries) : Option Settings := do
  let group (name : String) : Option Group :=
    match entries.lookup name with
    | some value => Group.ofToml? value
    | none => some (.byName [])
  let main ← Group.ofToml? (← entries.lookup "factqa")
  let server ← group "server"
  let ingest ← group "ingest"
  let standard : Settings := { indexRoot := "" }
  pure {
    indexRoot := ← main.needed 0 "index_root" text?
    defaultIndex := ← main.orElse 1 "default_index" text? standard.defaultIndex
    language := ← main.orElse 2 "language" text? standard.language
    logLevel := ← main.orElse 3 "log_level" text? standard.logLevel
    bind := ← server.orElse 0 "bind" text? standard.bind
    port := ← server.orElse 1 "port" (natural? 65535) standard.port
    lookupTimeout :=
      ← server.orElse 2 "lookup_timeout_ms" (natural? Text.maxCount) standard.lookupTimeout
    cacheCapacity :=
      ← server.orElse 3 "lookup_cache_capacity" (natural? Text.maxCount) standard.cacheCapacity
    batchSize := ← ingest.orElse 0 "batch_size" (natural? Text.maxCount) standard.batchSize
    maxObjectLength :=
      ← ingest.orElse 1 "max_object_len" (natural? Text.maxCount) standard.maxObjectLength
    ingestPredicates := ← ingest.orElse 2 "predicates" (list? text?) []
    terms := ← match entries.lookup "predicates" with
      | some value => list? term? value
      | none => some [] }

/-! ### Settings that can be used -/

/-- Why settings cannot be used. -/
def refusal? (s : Settings) : Option String :=
  if s.language.toList.all (· == '@') then
    some "factqa.language must name a language tag, e.g. \"@en\""
  else if (indexFile? s.indexRoot s.defaultIndex).isNone then
    some ("factqa.default_index is not a valid index name: " ++ Text.quoted s.defaultIndex)
  else if s.port = 0 then some "server.port must be greater than 0"
  else if s.lookupTimeout = 0 then some "server.lookup_timeout_ms must be greater than 0"
  else if s.batchSize = 0 then some "ingest.batch_size must be greater than 0"
  else if s.maxObjectLength = 0 then some "ingest.max_object_len must be greater than 0"
  else if s.terms.any fun t => (Text.trim t.term).isEmpty || (Text.trim t.entry.predicate).isEmpty then
    some "[[predicates]] entries need a non-empty term and predicate"
  else none

/-- The settings of a source text. -/
def ofSource (source : String) : Except Problem Settings :=
  match (Toml.document? source).bind ofEntries? with
  | none => .error .malformed
  | some settings =>
    match settings.refusal? with
    | some reason => .error (.refused reason)
    | none => .ok settings

/-- The settings of a file. -/
def ofFile (files : FileTree) (path : String) : Except Problem Settings :=
  match files.readText path with
  | .error _ => .error .unreadable
  | .ok source => ofSource source

/-! ### What settings amount to -/

/-- The language of the labels. -/
def labelLanguage (s : Settings) : Language := .ofText s.language

/-- The catalog with the terms in addition. -/
def catalog (s : Settings) : Catalog :=
  Catalog.standard.registerAll (s.terms.map fun t => (t.term, t.entry))

/-- Where requests are listened for, with the port. -/
def listenAddress (s : Settings) : String := s.bind ++ ":" ++ toString s.port

/-- The path of an index, or why there is none. -/
def indexPath (s : Settings) (name : String) : Except String String :=
  match indexFile? s.indexRoot name with
  | some path => .ok path
  | none => .error ("Invalid index name: " ++ Text.quoted name)

end Settings

end GraphAnswers
