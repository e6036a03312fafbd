import GraphAnswers.Proofs.Discovery
import GraphAnswers.Proofs.IndexPlaces
import GraphAnswers.Proofs.Scripts
/-!
# The paths that dumps are known by

Every file below a directory that goes by the name of a dump is found, and found once
(`Dump.discover_exact`).  It is known by the names that lead to it, with slashes in between; but a
backslash in a name counts as a slash.  So the path cuts the names at their backslashes
(`Dump.pathSteps_pathOf`), and two dumps are known by one path exactly if their places come to the
same when cut there.  Where no name has a backslash, each dump has a path of its own; a directory
`a` with a dump `b.nt` beside a dump `a\b.nt` gives two dumps of one path
(`Dump.two_dumps_of_one_path`).
-/
namespace GraphAnswers

/-! ### Paths cut into names -/

namespace Text

/-- Pieces put together again with what they were cut at. -/
theorem intercalate_splitWhere {α : Type} [DecidableEq α] (a : α) (cs : List α) :
    [a].intercalate (splitWhere (· == a) cs) = cs := by
  induction cs with
  | nil => rfl
  | cons c cs ih =>
    unfold splitWhere
    split
    · rename_i hc
      obtain rfl := beq_iff_eq.mp hc
      rw [List.intercalate_cons_of_ne_nil (splitWhere_ne_nil cs), ih]
      rfl
    · cases hcut : splitWhere (· == a) cs with
      | nil => exact absurd hcut (splitWhere_ne_nil cs)
      | cons piece pieces =>
        rw [hcut] at ih
        rw [← ih]
        cases pieces <;> rfl

/-- A path is told by its names. -/
theorem pathSteps_injective {s t : String} (h : pathSteps s = pathSteps t) : s = t := by
  have hpieces : splitWhere (· == '/') s.toList = splitWhere (· == '/') t.toList :=
    List.map_injective_iff.mpr (fun _ _ => String.ofList_inj.mp) h
  rw [← String.toList_inj, ← intercalate_splitWhere '/' s.toList, hpieces,
    intercalate_splitWhere '/' t.toList]

/-- The pieces of a name between its backslashes. -/
def backslashSteps (name : String) : List String :=
  (splitWhere (· == '\\') name.toList).map String.ofList

theorem backslashSteps_of_none {name : String} (h : '\\' ∉ name.toList) :
    backslashSteps name = [name] := by
  have hnone : ∀ c ∈ name.toList, (c == '\\') = false := by
    intro c hc
    rw [beq_eq_false_iff_ne]
    rintro rfl
    exact h hc
  unfold backslashSteps
  rw [splitWhere_of_none hnone, List.map_singleton, String.ofList_toList]

end Text

namespace Dump

open Text

/-- The names on the way to a place, cut at their backslashes. -/
def cutNames (place : Location) : List String := place.flatMap backslashSteps

theorem cutNames_of_none {place : Location} (h : ∀ name ∈ place, '\\' ∉ name.toList) :
    cutNames place = place := by
  unfold cutNames
  rw [List.flatMap_congr fun name hname => backslashSteps_of_none (h name hname),
    List.flatMap_singleton']

/-- A slash for a backslash cuts at both. -/
theorem splitWhere_map_asSlash {cs : List Char} (h : '/' ∉ cs) :
    splitWhere (· == '/') (cs.map asSlash) = splitWhere (· == '\\') cs := by
  refine splitWhere_map fun c hc => ?_
  by_cases hback : c = '\\'
  · subst hback
    exact ⟨by decide, fun h => by cases h⟩
  · have hsame : asSlash c = c := if_neg (by simpa using hback)
    have hslash : c ≠ '/' := by
      rintro rfl
      exact h hc
    rw [hsame]
    exact ⟨by simp [hback, hslash], fun _ => rfl⟩

/-- **The names of the path of a dump** are the names on the way to it, cut at their backslashes. -/
theorem pathSteps_pathOf {place : Location} (hne : place ≠ [])
    (hnames : ∀ name ∈ place, '/' ∉ name.toList) : pathSteps (pathOf place) = cutNames place := by
  have hpath : (pathOf place).toList = (['/'].intercalate (place.map String.toList)).map asSlash := by
    unfold pathOf replaceWhere join
    rw [String.toList_ofList, String.toList_ofList]
    rfl
  have hcut (name : String) (hname : '/' ∉ name.toList) :
      (splitWhere (· == '/') (name.toList.map asSlash)).map String.ofList = backslashSteps name :=
    congrArg _ (splitWhere_map_asSlash hname)
  unfold pathSteps
  rw [hpath]
  clear hpath
  induction place with
  | nil => exact absurd rfl hne
  | cons name rest ih =>
    obtain ⟨hname, hrest⟩ := List.forall_mem_cons.mp hnames
    cases rest with
    | nil =>
      rw [List.map_singleton, List.intercalate_singleton, hcut name hname]
      exact (List.append_nil _).symm
    | cons next rest =>
      have hslash : asSlash '/' = '/' := by decide
      rw [List.map_cons, List.intercalate_cons_of_ne_nil (by simp), List.append_assoc,
        List.singleton_append, List.map_append, List.map_cons, hslash,
        splitWhere_separator (by decide), List.map_append, hcut name hname,
        ih (List.cons_ne_nil _ _) hrest]
      rfl

/-- **When two places give one path.** -/
theorem pathOf_eq_iff {a b : Location} (hane : a ≠ []) (hbne : b ≠ [])
    (ha : ∀ name ∈ a, '/' ∉ name.toList) (hb : ∀ name ∈ b, '/' ∉ name.toList) :
    pathOf a = pathOf b ↔ cutNames a = cutNames b := by
  rw [← pathSteps_pathOf hane ha, ← pathSteps_pathOf hbne hb]
  exact ⟨congrArg pathSteps, pathSteps_injective⟩

end Dump

/-! ### Files below a directory -/

namespace FileTree

/-- Whether no name in a tree has a slash in it. -/
def HasNames (t : FileTree) : Prop := ∀ e ∈ t.nodes.toList, ∀ name ∈ e.1, '/' ∉ name.toList

variable {t : FileTree} {directory rest : Location} {octets : List UInt8}

/-- Which entries are files below a directory. -/
theorem fileBelow_eq_some_iff {place : Location} {node : Node} {f : Location × List UInt8} :
    (match below? directory place, node with
      | some rest, .file (.octets octets) => some (rest, octets)
      | _, _ => none) = some f ↔ place = directory ++ f.1 ∧ node = .file (.octets f.2) := by
  constructor
  · intro h
    split at h
    · rename_i hbelow
      cases h
      exact ⟨below?_eq_some_iff.mp hbelow, rfl⟩
    · cases h
  · rintro ⟨rfl, rfl⟩
    rw [below?_eq_some_iff.mpr rfl]

theorem mem_filesBelow_iff : (rest, octets) ∈ t.filesBelow directory ↔
    (directory ++ rest, .file (.octets octets)) ∈ t.nodes.toList := by
  unfold filesBelow
  rw [List.mem_filterMap]
  constructor
  · rintro ⟨⟨place, node⟩, he, hfile⟩
    obtain ⟨rfl, rfl⟩ := fileBelow_eq_some_iff.mp hfile
    exact he
  · exact fun he => ⟨_, he, fileBelow_eq_some_iff.mpr ⟨rfl, rfl⟩⟩

/-- No file is met twice. -/
theorem nodup_filesBelow (t : FileTree) (directory : Location) :
    ((t.filesBelow directory).map Prod.fst).Nodup := by
  refine List.pairwise_map.mpr (List.pairwise_filterMap.mpr ?_)
  refine (List.pairwise_map.mp t.nodes.ascending).imp fun hless f hf g hg hsame => ?_
  rw [(fileBelow_eq_some_iff.mp hf).1, (fileBelow_eq_some_iff.mp hg).1, hsame] at hless
  exact SortedMap.irreflexive _ hless

end FileTree

/-! ### Dumps below a directory -/

namespace Dump

variable {t : FileTree} {root : String} {place : Location}

/-- The dump in a file below a directory. -/
def ofFile (f : Location × List UInt8) : DumpFile where
  path := pathOf f.1
  name := f.1.getLastD ""
  octets := f.2

/-- The files below a directory that go by the names of dumps. -/
def filesOf (t : FileTree) (place : Location) : List (Location × List UInt8) :=
  (t.filesBelow place).filter fun f => isDumpName (f.1.getLastD "")

theorem ne_nil_of_isDumpName {place : Location} (h : isDumpName (place.getLastD "") = true) :
    place ≠ [] := by
  rintro rfl
  exact absurd h (by decide)

theorem mem_filesOf_iff {rest : Location} {octets : List UInt8} :
    (rest, octets) ∈ filesOf t place ↔ t.node? (place ++ rest) = some (.file (.octets octets)) ∧
      isDumpName (rest.getLastD "") = true := by
  unfold filesOf
  rw [List.mem_filter, FileTree.mem_filesBelow_iff]
  refine and_congr_left fun hname => ?_
  have hne : place ++ rest ≠ [] := fun hnil =>
    ne_nil_of_isDumpName hname (List.append_eq_nil_iff.mp hnil).2
  unfold FileTree.node?
  rw [if_neg (by simpa using hne)]
  exact ⟨SortedMap.find?_of_mem, SortedMap.mem_of_find?⟩

theorem discover_eq (hlocated : t.locate? root = some place)
    (hplace : t.isDirectoryAt place = true) :
    discover t root = .ok ((filesOf t place).map ofFile) := by
  have hroot : t.isDirectory root = true := by
    unfold FileTree.isDirectory
    rcases FileTree.find?_cases root with hout | hin
    · rw [(hout t t).1] at hlocated
      cases hlocated
    · rw [hin, hlocated]
      exact hplace
  have hfile : (fun f : Location × List UInt8 => ofFile? f.1 f.2) = fun f =>
      (Option.guard (fun f => isDumpName (f.1.getLastD "")) f).map ofFile := by
    funext f
    unfold ofFile? Option.guard
    dsimp only
    split <;> rfl
  rw [discover_directory hroot, hlocated]
  dsimp only
  rw [hfile, ← List.map_filterMap, List.filterMap_eq_filter]
  rfl

/-- **What is found in a directory**: all files anywhere below it that go by the names of dumps,
each of them once.  Two of them are known by one path exactly if their places come to the same when
cut at backslashes; so if there is no backslash in their names, no two are. -/
theorem discover_exact (hnames : t.HasNames) (hlocated : t.locate? root = some place)
    (hplace : t.isDirectoryAt place = true) :
    discover t root = .ok ((filesOf t place).map ofFile) ∧
    ((filesOf t place).map Prod.fst).Nodup ∧
    (∀ rest octets, (rest, octets) ∈ filesOf t place ↔
      t.node? (place ++ rest) = some (.file (.octets octets)) ∧
        isDumpName (rest.getLastD "") = true) ∧
    (∀ f ∈ filesOf t place, ∀ g ∈ filesOf t place,
      (ofFile f).path = (ofFile g).path ↔ cutNames f.1 = cutNames g.1) ∧
    ((∀ f ∈ filesOf t place, ∀ name ∈ f.1, '\\' ∉ name.toList) →
      (((filesOf t place).map ofFile).map DumpFile.path).Nodup) := by
  have hnodup : ((filesOf t place).map Prod.fst).Nodup :=
    (t.nodup_filesBelow place).sublist (List.filter_sublist.map _)
  have hproper (f : Location × List UInt8) (hf : f ∈ filesOf t place) :
      f.1 ≠ [] ∧ ∀ name ∈ f.1, '/' ∉ name.toList := by
    obtain ⟨hbelow, hname⟩ := List.mem_filter.mp hf
    exact ⟨ne_nil_of_isDumpName hname, fun name hmem =>
      hnames _ (FileTree.mem_filesBelow_iff.mp hbelow) name (List.mem_append_right _ hmem)⟩
  have hpath : ∀ f ∈ filesOf t place, ∀ g ∈ filesOf t place,
      (ofFile f).path = (ofFile g).path ↔ cutNames f.1 = cutNames g.1 := by
    intro f hf g hg
    obtain ⟨hfne, hfnames⟩ := hproper f hf
    obtain ⟨hgne, hgnames⟩ := hproper g hg
    exact pathOf_eq_iff hfne hgne hfnames hgnames
  refine ⟨discover_eq hlocated hplace, hnodup, fun _ _ => mem_filesOf_iff, hpath, fun hclean => ?_⟩
  rw [List.map_map]
  refine List.pairwise_map.mpr ((List.pairwise_map.mp hnodup).imp_of_mem fun hf hg hne hsame => ?_)
  have hcut := (hpath _ hf _ hg).mp hsame
  rw [cutNames_of_none (hclean _ hf), cutNames_of_none (hclean _ hg)] at hcut
  exact hne hcut

/-! ### A backslash in a name -/

/-- Dumps in a directory and in one below it. -/
def nested : FileTree :=
  [(["a"], .directory), (["a", "b.nt"], .file (.octets [])), (["b.nt"], .file (.octets [])),
    (["c.md"], .file (.octets []))].foldl (fun t e => t.set e.1 e.2) .empty

theorem discover_exact_nested :
    nested.HasNames ∧ nested.locate? "." = some [] ∧ nested.isDirectoryAt [] = true ∧
    discover nested "." = .ok ((filesOf nested []).map ofFile) ∧
    (((filesOf nested []).map ofFile).map DumpFile.path).Nodup := by
  have hnames : nested.HasNames := by
    unfold FileTree.HasNames
    decide
  have hlocated : nested.locate? "." = some [] := by decide
  have hplace : nested.isDirectoryAt [] = true := by decide
  obtain ⟨hfound, _, _, _, hdistinct⟩ := discover_exact hnames hlocated hplace
  exact ⟨hnames, hlocated, hplace, hfound, hdistinct (by decide)⟩

/-- A dump in a directory, and beside that a dump with a backslash in its name. -/
def backslashed : FileTree :=
  [(["a"], .directory), (["a", "b.nt"], .file (.octets [])),
    (["a\\b.nt"], .file (.octets []))].foldl (fun t e => t.set e.1 e.2) .empty

/-- **Two dumps of one path**: a backslash in a name counts as a slash. -/
theorem two_dumps_of_one_path :
    backslashed.HasNames ∧ backslashed.locate? "." = some [] ∧
    backslashed.isDirectoryAt [] = true ∧
    (discover backslashed ".").map (List.map DumpFile.path) = .ok ["a/b.nt", "a/b.nt"] := by
  refine ⟨?_, by decide, by decide, by decide +kernel⟩
  unfold FileTree.HasNames
  decide

end Dump

end GraphAnswers
