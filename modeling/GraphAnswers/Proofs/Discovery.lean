import GraphAnswers.Dump.Discovery
import GraphAnswers.Proofs.IndexFile
import GraphAnswers.Proofs.Margins
/-!
# The dumps of a directory

What is found is the files below the directory that go by the names of dumps.  An index file is
none of them, so work on it makes no difference (`Dump.discover_set`).  The path of a dump tells
whether it is compressed, so two dumps with one path and one content have the same lines
(`DumpFile.IsFound.lines_eq`).
-/
namespace GraphAnswers

/-! ### What follows the last dot -/

namespace Text

/-- Whether what follows the last dot says that a file is compressed. -/
def endsCompressed (cs : List Char) : Bool :=
  match splitLast? '.' cs with
  | some (_, extension) => sameLetters (String.ofList extension) "gz"
  | none => false

end Text

namespace Dump

/-- A slash for a backslash. -/
def asSlash (c : Char) : Char := if c == '\\' then '/' else c

/-- No slash is a letter. -/
theorem sameLetters_map_asSlash (cs : List Char) :
    Text.sameLetters (String.ofList (cs.map asSlash)) "gz" =
      Text.sameLetters (String.ofList cs) "gz" := by
  have hletter (c d : Char) (hslash : '/' ≠ d) (hback : '\\' ≠ d) :
      (asSlash c).toLower = d ↔ c.toLower = d := by
    unfold asSlash
    by_cases hc : c = '\\'
    · subst hc
      simp [hslash, hback]
    · simp [hc]
  have hgz : "gz".toList.map Char.toLower = ['g', 'z'] := by decide
  unfold Text.sameLetters
  rw [hgz, Bool.eq_iff_iff, beq_iff_eq, beq_iff_eq, String.toList_ofList, String.toList_ofList]
  match cs with
  | [] => simp
  | [c] => simp
  | [c, d] => simp [hletter c 'g' (by decide) (by decide), hletter d 'z' (by decide) (by decide)]
  | c :: d :: e :: rest => simp

/-- A path ends in the last name. -/
theorem exists_intercalate (separator : List Char) (init : List (List Char)) (name : List Char) :
    ∃ front, separator.intercalate (init ++ [name]) = front ++ name := by
  induction init with
  | nil => exact ⟨[], by simp⟩
  | cons first init ih =>
    obtain ⟨front, hfront⟩ := ih
    refine ⟨first ++ separator ++ front, ?_⟩
    rw [List.cons_append, List.intercalate_cons_of_ne_nil (by simp), hfront]
    simp

/-- The path of a dump tells whether it is compressed. -/
theorem isCompressed_eq {place : Location} (hname : isDumpName (place.getLastD "") = true) :
    isCompressed (place.getLastD "") = Text.endsCompressed (pathOf place).toList := by
  -- the name opens, up to its last dot, with something
  obtain ⟨first, before, extension, hsplit⟩ : ∃ first before extension,
      Text.splitLast? '.' (place.getLastD "").toList = some (first :: before, extension) := by
    unfold isDumpName Text.extension? at hname
    split at hname
    · exact ⟨_, _, _, ‹_›⟩
    · cases hname
  obtain ⟨hlast, hdot⟩ := Text.of_splitLast? hsplit
  have hne : place ≠ [] := by
    rintro rfl
    cases hsplit
  obtain ⟨front, hfront⟩ := exists_intercalate "/".toList (place.dropLast.map String.toList)
    (place.getLastD "").toList
  have hplace : place.dropLast ++ [place.getLastD ""] = place := by
    rw [List.getLastD_eq_getLast?, List.getLast?_eq_some_getLast hne, Option.getD_some]
    exact List.dropLast_concat_getLast hne
  have hpath : (pathOf place).toList =
      (front ++ first :: before).map asSlash ++ '.' :: extension.map asSlash := by
    have hjoin : (Text.join "/" place).toList = front ++ (place.getLastD "").toList := by
      unfold Text.join
      rw [String.toList_ofList, ← hfront, ← List.map_singleton, ← List.map_append, hplace]
    have hslash : (fun c => if c == '\\' then '/' else c) = asSlash := rfl
    have hstop : asSlash '.' = '.' := by decide
    unfold pathOf Text.replaceWhere
    rw [String.toList_ofList, hjoin, hlast, hslash]
    simp [hstop]
  have hdot' : '.' ∉ extension.map asSlash := by
    intro hm
    obtain ⟨c, hc, hslash⟩ := List.mem_map.mp hm
    unfold asSlash at hslash
    split at hslash
    · cases hslash
    · exact hdot (hslash ▸ hc)
  unfold isCompressed Text.extension? Text.endsCompressed
  rw [hsplit, hpath, Text.splitLast?_append hdot']
  dsimp only
  rw [sameLetters_map_asSlash]
  rfl

end Dump

/-! ### What is found -/

/-- Whether a dump can be found below a directory. -/
def DumpFile.IsFound (dump : DumpFile) : Prop :=
  ∃ place, Dump.ofFile? place dump.octets = some dump

/-- The path and the content of a dump tell its lines. -/
theorem DumpFile.IsFound.lines_eq {a b : DumpFile} (ha : a.IsFound) (hb : b.IsFound)
    (hpath : a.path = b.path) (hoctets : a.octets = b.octets) : a.lines = b.lines := by
  have hcompressed (d : DumpFile) (hd : d.IsFound) :
      Dump.isCompressed d.name = Text.endsCompressed d.path.toList := by
    obtain ⟨place, hplace⟩ := hd
    unfold Dump.ofFile? at hplace
    dsimp only at hplace
    split at hplace
    · rename_i hname
      rw [← Option.some.inj hplace]
      exact Dump.isCompressed_eq hname
    · cases hplace
  unfold DumpFile.lines
  rw [hcompressed a ha, hcompressed b hb, hpath, hoctets]

namespace Dump

variable {t : FileTree} {root : String} {dumps : List DumpFile}

/-- The dumps of a directory of the tree. -/
theorem discover_directory (hroot : t.isDirectory root = true) : discover t root = .ok
    (match t.locate? root with
    | some place => (t.filesBelow place).filterMap fun f => ofFile? f.1 f.2
    | none => []) := by
  have hnode : t.find? root = some .directory := by simpa [FileTree.isDirectory] using hroot
  unfold discover
  rw [hnode]
  cases t.locate? root <;> rfl

theorem isFound_of_discover (hroot : t.isDirectory root = true)
    (hfound : discover t root = .ok dumps) {dump : DumpFile} (hdump : dump ∈ dumps) :
    dump.IsFound := by
  rw [discover_directory hroot] at hfound
  cases hfound
  split at hdump
  · obtain ⟨⟨place, octets⟩, _, hfile⟩ := List.mem_filterMap.mp hdump
    refine ⟨place, ?_⟩
    have hoctets : dump.octets = octets := by
      unfold ofFile? at hfile
      dsimp only at hfile
      split at hfile
      · rw [← Option.some.inj hfile]
      · cases hfile
    rw [hoctets]
    exact hfile
  · cases hdump

/-- An index in the place of another one is no more a dump than that was. -/
theorem discover_set_index {place : Location} {d d' : Database} (hplace : t.hasPlace place = true)
    (hheld : t.content? place = some (.index d)) (hroot : t.isDirectory root = true) :
    discover (t.set place (.file (.index d'))) root = discover t root := by
  have hsame := FileTree.sameDirectories_set hplace (.index d')
  have hnode : t.nodes.find? place = some (.file (.index d)) := by
    unfold FileTree.content? FileTree.node? at hheld
    rw [if_neg (by simpa using FileTree.ne_nil_of_hasPlace hplace)] at hheld
    split at hheld
    · rename_i hnode
      rw [hnode, Option.some.inj hheld]
    · cases hheld
  have hfiles (directory : Location) :
      (t.set place (.file (.index d'))).filesBelow directory = t.filesBelow directory := by
    refine SortedMap.filterMap_place _ ?_ fun node hmem => ?_
    · dsimp only
      cases FileTree.below? directory place <;> rfl
    · cases hnode.symm.trans (SortedMap.find?_of_mem hmem)
      dsimp only
      cases FileTree.below? directory place <;> rfl
  rw [discover_directory hroot, discover_directory (by rw [hsame.isDirectory, hroot]),
    hsame.locate?]
  simp only [hfiles]

/-- **Work on an index does not change what dumps are found.** -/
theorem discover_set {path : String} {o : FileTree.Opening} {d d' : Database}
    (hholds : t.Holds path o d) (hd : d ≠ .empty) (hroot : t.isDirectory root = true) :
    discover (t.set o.place (.file (.index d'))) root = discover t root := by
  have hheld : t.content? o.place = some (.index d) := by
    unfold FileTree.content?
    rw [hholds.node? hd]
  exact discover_set_index hholds.hasPlace hheld hroot

end Dump

end GraphAnswers
