import GraphAnswers.Proofs.IndexFile
import GraphAnswers.Proofs.Margins
import GraphAnswers.Proofs.Wording
import GraphAnswers.Server.Registry
/-!
# Where index files lie

The file of an index lies directly in the directory of the indexes, under the name of the index with
an ending (`locate?_indexFile`); so two indexes of different names have different files.  All of this
needs that the path of an index is the path of its file.  It is not where the path opens like a file
URI; of a directory under whose path that cannot happen we say that it has a plain path
(`IsPlainRoot`).
-/
namespace GraphAnswers

namespace Text

theorem endsWith_iff {s t : String} : s.endsWith t = true ↔ t.toList <:+ s.toList := by
  rw [String.endsWith_eq_endsWith_toSlice, String.Slice.endsWith_string_iff, String.copy_toSlice]

/-- Around a slash, a path is cut into its names on either side on its own. -/
theorem pathSteps_slash (s t : String) :
    pathSteps (s ++ "/" ++ t) = pathSteps s ++ pathSteps t := by
  have hlist : (s ++ "/" ++ t).toList = s.toList ++ '/' :: t.toList := by simp
  unfold pathSteps
  rw [hlist, splitWhere_separator (by decide), List.map_append]

theorem pathSteps_of_name {s : String} (h : '/' ∉ s.toList) : pathSteps s = [s] := by
  have hnone : ∀ c ∈ s.toList, (c == '/') = false := by
    intro c hc
    rw [beq_eq_false_iff_ne]
    rintro rfl
    exact h hc
  unfold pathSteps
  rw [splitWhere_of_none hnone, List.map_singleton, String.ofList_toList]

theorem pathSteps_ne_nil (s : String) : pathSteps s ≠ [] := by
  unfold pathSteps
  exact fun h => splitWhere_ne_nil _ (List.map_eq_nil_iff.mp h)

end Text

open Text

/-! ### The path of an index -/

/-- **Whether a name is one of an index**: it is not empty, opens with no dot, and leads through no
directory. -/
structure IsIndexName (name : String) : Prop where
  nonempty : name ≠ ""
  noDot : name.startsWith "." = false
  noSlash : '/' ∉ name.toList
  noBackslash : '\\' ∉ name.toList

theorem indexFile?_eq_some_iff {root name path : String} : indexFile? root name = some path ↔
    IsIndexName name ∧ path = joinPath root (name ++ ".db") := by
  have hnames : (name.isEmpty || name.startsWith "." ||
      name.toList.any fun c => c == '/' || c == '\\') = false ↔ IsIndexName name := by
    simp only [Bool.or_eq_false_iff, List.any_eq_false, Bool.or_eq_true, beq_iff_eq, not_or]
    constructor
    · rintro ⟨⟨hempty, hdot⟩, hslashes⟩
      exact ⟨by simpa using hempty, hdot, fun h => (hslashes _ h).1 rfl,
        fun h => (hslashes _ h).2 rfl⟩
    · rintro ⟨hempty, hdot, hslash, hbackslash⟩
      refine ⟨⟨by simpa using hempty, hdot⟩, fun c hc => ⟨?_, ?_⟩⟩
      · rintro rfl
        exact hslash hc
      · rintro rfl
        exact hbackslash hc
  unfold indexFile?
  rw [← hnames]
  split
  · rename_i h
    simp [h]
  · rename_i h
    rw [Bool.not_eq_true] at h
    simp only [h, true_and, Option.some_inj]
    exact eq_comm

/-- **Whether the path of a directory is plain**: the path of no index in it opens like a file
URI. -/
structure IsPlainRoot (root : String) : Prop where
  nonempty : root ≠ ""
  noScheme : root.startsWith "file:" = false

theorem IsIndexName.noSlash_file {name : String} (h : IsIndexName name) :
    '/' ∉ (name ++ ".db").toList := by
  rw [String.toList_append, List.mem_append]
  rintro (h' | h')
  · exact h.noSlash h'
  · exact absurd h' (by decide)

/-- The path of an index goes on from that of the directory, after a slash. -/
theorem joinPath_eq {root file : String} (hroot : root ≠ "") (hfile : '/' ∉ file.toList) :
    ∃ up, (root = up ++ "/" ∨ root = up) ∧ joinPath root file = up ++ "/" ++ file := by
  have hstart : file.startsWith "/" = false := by
    rw [String.startsWith_string_eq_false_iff]
    rintro ⟨rest, hrest⟩
    exact hfile (hrest ▸ List.mem_append_left rest (by decide))
  unfold joinPath
  rw [if_neg (by simp [hroot, hstart])]
  by_cases hend : root.endsWith "/" = true
  · obtain ⟨up, hup⟩ := endsWith_iff.mp hend
    have hsplit : root = String.ofList up ++ "/" := by
      rw [← String.toList_inj, ← hup]
      simp
    rw [if_pos hend, hsplit]
    exact ⟨String.ofList up, .inl rfl, rfl⟩
  · rw [if_neg hend]
    exact ⟨root, .inr rfl, rfl⟩

/-- A text that holds no slash and opens a path opens it before its first slash. -/
theorem prefix_of_prefix_slash {l before after : List Char} (hl : '/' ∉ l)
    (h : l <+: before ++ '/' :: after) : l <+: before := by
  have hslash : before ++ ['/'] <+: before ++ '/' :: after := ⟨after, by simp⟩
  rcases List.prefix_or_prefix_of_prefix h hslash with hle | hle
  · rcases List.prefix_concat_iff.mp hle with rfl | hle
    · exact absurd (by simp) hl
    · exact hle
  · exact absurd (hle.subset (by simp)) hl

theorem IsPlainRoot.startsWith_indexFile {root name path : String} (h : IsPlainRoot root)
    (hpath : indexFile? root name = some path) : path.startsWith "file:" = false := by
  obtain ⟨hname, rfl⟩ := indexFile?_eq_some_iff.mp hpath
  obtain ⟨up, hup, hjoin⟩ := joinPath_eq h.nonempty hname.noSlash_file
  rw [String.startsWith_string_eq_false_iff, hjoin]
  intro hscheme
  have hpath : (up ++ "/" ++ (name ++ ".db")).toList =
      up.toList ++ '/' :: (name ++ ".db").toList := by
    rw [String.toList_append, String.toList_append, List.append_assoc]
    rfl
  rw [hpath] at hscheme
  have hscheme : "file:".toList <+: up.toList := prefix_of_prefix_slash (by decide) hscheme
  apply String.startsWith_string_eq_false_iff.mp h.noScheme
  rcases hup with rfl | rfl
  · rw [String.toList_append]
    exact hscheme.trans (List.prefix_append _ _)
  · exact hscheme

/-! ### The place of an index -/

namespace FileTree
variable {t : FileTree}

theorem follow_append (place : Location) (names rest : List String) :
    t.follow place (names ++ rest) = (t.follow place names).bind (t.follow · rest) := by
  induction names generalizing place with
  | nil => rfl
  | cons name names ih =>
    simp only [List.cons_append, follow, ih]
    split_ifs <;> rfl

theorem locate?_eq (path : String) : t.locate? path =
    if (pathSteps path).head? = some "" then none else t.follow [] (pathSteps path) := by
  unfold locate?
  split
  · rename_i hsteps
    rw [hsteps]
    rfl
  · rename_i hsteps
    rw [if_neg]
    intro hhead
    obtain ⟨rest, hrest⟩ := List.head?_eq_some_iff.mp hhead
    exact hsteps rest hrest

theorem follow_file {place : Location} {file : String} (hfile : file ≠ "" ∧ file ≠ "." ∧ file ≠ "..") :
    t.follow place [file] = if t.isDirectoryAt place then some (place ++ [file]) else none := by
  simp only [follow, decide_eq_false hfile.1, decide_eq_false hfile.2.1, if_neg hfile.2.2,
    Bool.or_false, Bool.false_eq_true, if_false]
  cases t.isDirectoryAt place <;> rfl

end FileTree

theorem IsIndexName.file_ne {name : String} (h : IsIndexName name) :
    name ++ ".db" ≠ "" ∧ name ++ ".db" ≠ "." ∧ name ++ ".db" ≠ ".." := by
  have hlength : 4 ≤ (name ++ ".db").toList.length := by
    have hne : name.toList.length ≠ 0 := fun hnil => h.nonempty (by simpa using hnil)
    rw [String.toList_append, List.length_append]
    have : ".db".toList.length = 3 := by decide
    omega
  have hshort {short : String} (hs : short.toList.length ≤ 2) : name ++ ".db" ≠ short := by
    rintro rfl
    omega
  exact ⟨hshort (by decide), hshort (by decide), hshort (by decide)⟩

section Places
variable {t : FileTree} {root name path : String}

/-- **The file of an index lies directly in the directory of the indexes.** -/
theorem locate?_indexFile (hroot : root ≠ "") (hpath : indexFile? root name = some path)
    (t : FileTree) : t.locate? path = (t.locate? root).bind fun place =>
      if t.isDirectoryAt place then some (place ++ [name ++ ".db"]) else none := by
  obtain ⟨hname, rfl⟩ := indexFile?_eq_some_iff.mp hpath
  obtain ⟨up, hup, hjoin⟩ := joinPath_eq hroot hname.noSlash_file
  have hhead (rest : List String) : (pathSteps up ++ rest).head? = (pathSteps up).head? :=
    List.head?_append_of_ne_nil _ (pathSteps_ne_nil up)
  rw [FileTree.locate?_eq, FileTree.locate?_eq, hjoin, pathSteps_slash,
    pathSteps_of_name hname.noSlash_file, hhead, FileTree.follow_append]
  simp only [FileTree.follow_file hname.file_ne]
  rcases hup with rfl | rfl
  · -- a slash at the end of the path asks for a directory, as the file in it does
    have hend : pathSteps (up ++ "/") = pathSteps up ++ [""] := by
      have hnone : pathSteps "" = [""] := by decide
      rw [← hnone, ← pathSteps_slash, String.append_empty]
    rw [hend, hhead, FileTree.follow_append]
    split_ifs
    · rfl
    · cases t.follow [] (pathSteps up) with
      | none => rfl
      | some place => cases hplace : t.isDirectoryAt place <;> simp [FileTree.follow, hplace]
  · split_ifs
    · rfl
    · rfl

theorem fileName_indexFile (hroot : root ≠ "") (hpath : indexFile? root name = some path) :
    fileName path = name ++ ".db" := by
  obtain ⟨hname, rfl⟩ := indexFile?_eq_some_iff.mp hpath
  obtain ⟨up, _, hjoin⟩ := joinPath_eq hroot hname.noSlash_file
  unfold fileName
  rw [hjoin, pathSteps_slash, pathSteps_of_name hname.noSlash_file, List.getLastD_eq_getLast?,
    List.getLast?_concat, Option.getD_some]

theorem file_injective {name name' : String} (h : name ++ ".db" = name' ++ ".db") : name = name' := by
  have hlists := congrArg String.toList h
  rw [String.toList_append, String.toList_append] at hlists
  exact String.toList_inj.mp (List.append_cancel_right hlists)

/-- The path tells the name of the index. -/
theorem indexFile?_injective {name' : String} (hroot : root ≠ "")
    (hpath : indexFile? root name = some path) (hpath' : indexFile? root name' = some path) :
    name = name' :=
  file_injective ((fileName_indexFile hroot hpath).symm.trans (fileName_indexFile hroot hpath'))

/-- Indexes of different names have different files. -/
theorem locate?_indexFile_ne {name' path' : String} (hroot : root ≠ "")
    (hpath : indexFile? root name = some path) (hpath' : indexFile? root name' = some path')
    (hne : name ≠ name') {place : Location} (hplace : t.locate? path = some place) :
    t.locate? path' ≠ some place := by
  intro hplace'
  rw [locate?_indexFile hroot hpath] at hplace
  rw [locate?_indexFile hroot hpath'] at hplace'
  obtain ⟨up, hup, hplace⟩ := Option.bind_eq_some_iff.mp hplace
  rw [hup, Option.bind_some] at hplace'
  split at hplace
  · rename_i hdirectory
    rw [if_pos hdirectory] at hplace'
    cases hplace
    have hsame : name' ++ ".db" = name ++ ".db" := by simpa using hplace'
    exact hne (file_injective hsame.symm)
  · cases hplace

/-- Where a path that is no URI leads, an index file is opened. -/
theorem opening?_plain (hpath : path.startsWith "file:" = false) (t : FileTree) :
    t.opening? path = ((t.locate? path).filter t.hasPlace).bind (FileTree.openingAt? []) := by
  have hmeant : FileTree.meant? path = some (path, []) := by
    unfold FileTree.meant?
    rw [hpath]
    rfl
  rw [FileTree.opening?_eq, hmeant, Option.bind_some, FileTree.place?_fst]

theorem place_of_opening? {o : FileTree.Opening} (hpath : path.startsWith "file:" = false)
    (h : t.opening? path = some o) : t.locate? path = some o.place := by
  rw [opening?_plain hpath] at h
  obtain ⟨place, hplace, h⟩ := Option.bind_eq_some_iff.mp h
  unfold FileTree.openingAt? at h
  split at h
  · cases h
  · rw [FileTree.Opening.foldlM_place h]
    exact (Option.filter_eq_some_iff.mp hplace).1

/-- **The file that a path denotes**: the one it leads to, and the one that is opened as an index. -/
inductive FileTree.Denotes (t : FileTree) (path : String) : Location → Prop
  | leads {place : Location} (h : t.locate? path = some place) : t.Denotes path place
  | opens {o : FileTree.Opening} (h : t.opening? path = some o) : t.Denotes path o.place

/-- A path that is no URI denotes one file. -/
theorem FileTree.Denotes.locate?_eq {place : Location} (h : t.Denotes path place)
    (hpath : path.startsWith "file:" = false) : t.locate? path = some place := by
  cases h with
  | leads h => exact h
  | opens h => exact place_of_opening? hpath h

/-- Where a path leads, its last name is found. -/
theorem exists_concat_fileName {file : String} {place : Location}
    (hfile : fileName file ≠ "" ∧ fileName file ≠ "." ∧ fileName file ≠ "..")
    (hplace : t.locate? file = some place) : ∃ above, place = above ++ [fileName file] := by
  have hsteps : pathSteps file = (pathSteps file).dropLast ++ [fileName file] := by
    unfold fileName
    rw [List.getLastD_eq_getLast?, List.getLast?_eq_some_getLast (pathSteps_ne_nil file),
      Option.getD_some, List.dropLast_concat_getLast]
  rw [FileTree.locate?_eq] at hplace
  split at hplace
  · cases hplace
  rw [hsteps, FileTree.follow_append] at hplace
  obtain ⟨above, _, hplace⟩ := Option.bind_eq_some_iff.mp hplace
  rw [FileTree.follow_file hfile] at hplace
  split at hplace
  · exact ⟨above, (Option.some.inj hplace).symm⟩
  · cases hplace

theorem IsIndexName.extension? (h : IsIndexName name) :
    Text.extension? (name ++ ".db") = some "db" := by
  have hlist : (name ++ ".db").toList = name.toList ++ '.' :: ['d', 'b'] := by
    rw [String.toList_append]
    rfl
  unfold Text.extension?
  rw [hlist, splitLast?_append (by decide)]
  cases hletters : name.toList with
  | nil => exact absurd (by simpa using hletters) h.nonempty
  | cons c cs => rfl

/-- A dump lies at no place of an index, since its name has another extension. -/
theorem locate?_dump_ne {file : String} (hroot : root ≠ "")
    (hpath : indexFile? root name = some path)
    (hdump : Dump.isDumpName (fileName file) = true) {place : Location}
    (hplace : t.locate? file = some place) : t.locate? path ≠ some place := by
  intro hindex
  have hname := (indexFile?_eq_some_iff.mp hpath).1
  have hnot {other : String} (h : Dump.isDumpName other = false) : fileName file ≠ other := by
    intro hsame
    rw [hsame, h] at hdump
    cases hdump
  obtain ⟨above, rfl⟩ :=
    exists_concat_fileName ⟨hnot (by decide), hnot (by decide), hnot (by decide)⟩ hplace
  have hindexFile : Dump.isDumpName (name ++ ".db") = false := by
    unfold Dump.isDumpName
    rw [hname.extension?]
    decide
  rw [locate?_indexFile hroot hpath] at hindex
  obtain ⟨up, _, hindex⟩ := Option.bind_eq_some_iff.mp hindex
  split at hindex
  · have hboth : up = above ∧ name ++ ".db" = fileName file := by simpa using hindex
    exact hnot hindexFile hboth.2.symm
  · cases hindex

end Places

end GraphAnswers
