import Mathlib.Data.List.Nodup
import Symtab.Collect
import Symtab.Proofs.ByteOrder

/-!
# Which files are collected

The files that a search under a directory finds, said without the search: those that names lead to,
with no name of a directory on the way that is passed over, that are not left out and that have a
language which is wanted. The search finds each of them once, in the order of their paths.
-/

set_option autoImplicit false

namespace Symtab

namespace FileTree

/-!
## Trees
-/

/-- A file of the given content is reached from the tree by the names. -/
inductive HasFile : FileTree → List String → FileContent → Prop where
  | here (content : FileContent) : HasFile (.file content) [] content
  | under {entries : List (String × FileTree)} {name : String} {tree : FileTree}
      {names : List String} {content : FileContent}
      (member : (name, tree) ∈ entries) (inside : HasFile tree names content) :
      HasFile (.directory entries) (name :: names) content

/-- A text that an entry of a directory can have as its name. -/
structure IsName (name : String) : Prop where
  nonempty : name ≠ ""
  notHere : name ≠ "."
  notAbove : name ≠ ".."
  oneSegment : '/' ∉ name.toList

instance (name : String) : Decidable (IsName name) :=
  decidable_of_iff (name ≠ "" ∧ name ≠ "." ∧ name ≠ ".." ∧ '/' ∉ name.toList)
    ⟨fun ⟨nonempty, notHere, notAbove, oneSegment⟩ => ⟨nonempty, notHere, notAbove, oneSegment⟩,
      fun ⟨nonempty, notHere, notAbove, oneSegment⟩ => ⟨nonempty, notHere, notAbove, oneSegment⟩⟩

/-- Every directory has entries with names, and no two of the same name. -/
inductive WellFormed : FileTree → Prop where
  | file (content : FileContent) : WellFormed (.file content)
  | directory {entries : List (String × FileTree)} (distinct : (entries.map Prod.fst).Nodup)
      (named : ∀ entry ∈ entries, IsName entry.1) (each : ∀ entry ∈ entries, WellFormed entry.2) :
      WellFormed (.directory entries)

private theorem entrywise {motive : FileTree → Prop} (file : ∀ content, motive (.file content))
    (directory : ∀ entries, (∀ entry ∈ entries, motive entry.2) → motive (.directory entries))
    (tree : FileTree) :
    motive tree :=
  @FileTree.rec motive (fun entries => ∀ entry ∈ entries, motive entry.2)
    (fun entry => motive entry.2) file directory
    (by simp) (fun _ _ first others => List.forall_mem_cons.mpr ⟨first, others⟩)
    (fun _ _ inside => inside) tree

theorem HasFile.isName {tree : FileTree} {names : List String} {content : FileContent}
    (reached : tree.HasFile names content) (wellFormed : tree.WellFormed) :
    ∀ name ∈ names, IsName name := by
  induction reached with
  | here => simp
  | under member _ ih =>
    cases wellFormed with
    | directory _ named each => exact List.forall_mem_cons.mpr ⟨named _ member, ih (each _ member)⟩

theorem HasFile.isDirectory_iff {tree : FileTree} {names : List String} {content : FileContent}
    (reached : tree.HasFile names content) : tree.isDirectory = true ↔ names ≠ [] := by
  cases reached with
  | here => simp [isDirectory]
  | under => simp [isDirectory]

section Files

variable (passesOver : String → Bool)

/-- The files found in an entry of a directory. -/
def filesOf (entry : String × FileTree) : List (List String × FileContent) :=
  if entry.2.isDirectory && passesOver entry.1 then []
  else (entry.2.files passesOver).map fun (names, content) => (entry.1 :: names, content)

private theorem files_directory (entries : List (String × FileTree)) :
    (directory entries).files passesOver =
      (sortedEntries entries).flatMap (filesOf passesOver) := by
  rw [files]
  refine (List.flatMap_subtype (g := filesOf passesOver) fun _ _ => rfl).trans ?_
  rw [List.unattach_attach]

private theorem mem_sortedEntries {entries : List (String × FileTree)} {entry : String × FileTree} :
    entry ∈ sortedEntries entries ↔ entry ∈ entries :=
  List.mem_mergeSort

/-- One more name at the front only matters where it is the name of a directory. -/
theorem HasFile.forall_dropLast_cons {tree : FileTree} {name : String} {names : List String}
    {content : FileContent} (reached : tree.HasFile names content) :
    (∀ outer ∈ (name :: names).dropLast, passesOver outer = false) ↔
      (tree.isDirectory && passesOver name) = false ∧
      ∀ outer ∈ names.dropLast, passesOver outer = false := by
  cases reached with
  | here => simp [isDirectory]
  | under => simp [isDirectory]

private theorem mem_filesOf {entry : String × FileTree}
    (found : ∀ {names : List String} {content : FileContent},
      (names, content) ∈ entry.2.files passesOver ↔
      entry.2.HasFile names content ∧ ∀ name ∈ names.dropLast, passesOver name = false)
    {names : List String} {content : FileContent} :
    (names, content) ∈ filesOf passesOver entry ↔
      ∃ rest, names = entry.1 :: rest ∧ entry.2.HasFile rest content ∧
        ∀ name ∈ names.dropLast, passesOver name = false := by
  rw [filesOf]
  constructor
  · intro member
    split at member
    · cases member
    · next entered =>
      obtain ⟨⟨rest, _⟩, inside, same⟩ := List.mem_map.mp member
      cases same
      obtain ⟨reached, kept⟩ := found.mp inside
      exact ⟨rest, rfl, reached, (reached.forall_dropLast_cons passesOver).mpr
        ⟨eq_false_of_ne_true entered, kept⟩⟩
  · rintro ⟨rest, rfl, reached, kept⟩
    obtain ⟨entered, kept⟩ := (reached.forall_dropLast_cons passesOver).mp kept
    rw [if_neg (ne_true_of_eq_false entered)]
    exact List.mem_map.mpr ⟨(rest, content), found.mpr ⟨reached, kept⟩, rfl⟩

/-- The files found are those reached by names of which none but the last is passed over. -/
theorem mem_files {tree : FileTree} {names : List String} {content : FileContent} :
    (names, content) ∈ tree.files passesOver ↔
      tree.HasFile names content ∧ ∀ name ∈ names.dropLast, passesOver name = false := by
  induction tree using entrywise generalizing names content with
  | file written =>
    rw [files, List.mem_singleton]
    constructor
    · intro same
      cases same
      exact ⟨.here written, by simp⟩
    · rintro ⟨reached, _⟩
      cases reached
      rfl
  | directory entries found =>
    rw [files_directory, List.mem_flatMap]
    constructor
    · rintro ⟨entry, sorted, inEntry⟩
      have member := mem_sortedEntries.mp sorted
      obtain ⟨rest, rfl, reached, kept⟩ := (mem_filesOf passesOver (found entry member)).mp inEntry
      exact ⟨.under member reached, kept⟩
    · rintro ⟨reached, kept⟩
      cases reached with
      | under member inside =>
        exact ⟨_, mem_sortedEntries.mpr member,
          (mem_filesOf passesOver (found _ member)).mpr ⟨_, rfl, inside, kept⟩⟩

private theorem names_of_mem_filesOf {entry : String × FileTree} {file : List String × FileContent}
    (member : file ∈ filesOf passesOver entry) : ∃ names, file.1 = entry.1 :: names := by
  rw [filesOf] at member
  split at member
  · cases member
  · obtain ⟨⟨names, content⟩, _, rfl⟩ := List.mem_map.mp member
    exact ⟨names, rfl⟩

private theorem pairwise_sortedEntries {entries : List (String × FileTree)}
    (distinct : (entries.map Prod.fst).Nodup) :
    (sortedEntries entries).Pairwise fun first second => first.1 < second.1 := by
  have sorted : (sortedEntries entries).Pairwise fun first second =>
      (!decide (second.1 < first.1)) = true := by
    refine List.pairwise_mergeSort ?_ ?_ entries
    · simp only [Bool.not_eq_true', decide_eq_false_iff_not]
      exact fun _ _ _ => String.le_trans
    · simp only [Bool.or_eq_true, Bool.not_eq_true', decide_eq_false_iff_not]
      exact fun first second => String.le_total first.1 second.1
  have different : ((sortedEntries entries).map Prod.fst).Nodup :=
    ((List.mergeSort_perm entries _).map Prod.fst).nodup_iff.mpr distinct
  refine (sorted.and (List.pairwise_map.mp different)).imp ?_
  rintro first second ⟨ordered, different⟩
  rw [Bool.not_eq_true', decide_eq_false_iff_not] at ordered
  exact Decidable.byContradiction fun notBefore => different (String.le_antisymm ordered notBefore)

/-- A walk over sorted siblings meets the files in the order of the names that lead to them: what
stands in one entry keeps its order behind the common name, and the names of two entries decide on
everything in them. -/
theorem pairwise_files {tree : FileTree} (wellFormed : tree.WellFormed) :
    (tree.files passesOver).Pairwise fun first second => first.1 < second.1 := by
  induction wellFormed with
  | file content =>
    rw [files]
    exact List.pairwise_singleton _ _
  | @directory entries distinct _ _ ih =>
    rw [files_directory, List.pairwise_flatMap]
    refine ⟨fun entry member => ?_, ?_⟩
    · rw [filesOf]
      split
      · exact .nil
      · refine List.pairwise_map.mpr ((ih entry (mem_sortedEntries.mp member)).imp ?_)
        exact fun lower => List.cons_lt_cons_iff.mpr (.inr ⟨rfl, lower⟩)
    · refine (pairwise_sortedEntries distinct).imp ?_
      intro first second lower file inFirst other inSecond
      obtain ⟨names, same⟩ := names_of_mem_filesOf passesOver inFirst
      obtain ⟨others, sameToo⟩ := names_of_mem_filesOf passesOver inSecond
      rw [same, sameToo]
      exact List.cons_lt_cons_iff.mpr (.inl lower)

end Files

end FileTree

/-!
## Paths below a directory
-/

namespace Path

private theorem segments_append (first second : List Char) :
    segments (first ++ '/' :: second) = segments first ++ segments second := by
  rw [segments, List.splitOn_append_cons_self, List.filter_append, segments, segments]

private theorem segments_intercalate {names : List String} (nonempty : names ≠ [])
    (named : ∀ name ∈ names, FileTree.IsName name) :
    segments (String.intercalate "/" names).toList = names.map String.toList := by
  have separate : ∀ segment ∈ names.map String.toList, '/' ∉ segment :=
    List.forall_mem_map.mpr fun name member => (named name member).oneSegment
  have meaningful :
      ∀ segment ∈ names.map String.toList, (!segment.isEmpty && segment != ['.']) = true := by
    refine List.forall_mem_map.mpr fun name member => ?_
    have notDot : name.toList ≠ ['.'] :=
      fun same => (named name member).notHere (String.toList_inj.mp same)
    simp [notDot, (named name member).nonempty]
  rw [segments, String.toList_intercalate]
  exact (congrArg _ (List.splitOn_intercalate '/' separate (by simpa using nonempty))).trans
    (List.filter_eq_self.mpr meaningful)

private theorem fileName?_append {path : List Char} (nonempty : segments path ≠ [])
    (root : List Char) :
    fileName? (root ++ '/' :: path) = fileName? path := by
  rw [fileName?, fileName?, segments_append, List.getLast?_append,
    List.getLast?_eq_some_getLast nonempty, Option.some_or]

end Path

/-- The language of a file does not depend on the directory that its path starts at. -/
theorem Config.languageFor?_append (config : Config) {path : List Char}
    (nonempty : Path.segments path ≠ []) (root : List Char) :
    config.languageFor? (root ++ '/' :: path) = config.languageFor? path := by
  rw [languageFor?, languageFor?, Path.extension?, Path.extension?, Path.fileName?_append nonempty]

/-!
## The collection
-/

section Collected

variable {config : Config} {exclusions : Exclusions} {only : Option Language}

private theorem isSkippedDirectory_eq_false {name : String} :
    isSkippedDirectory name = false ↔ name.toList.head? ≠ some '.' ∧ name ∉ skippedDirectories := by
  simp [isSkippedDirectory]

private theorem admit?_eq_some {names : List String} {content : FileContent} {file : FoundFile} :
    admit? config exclusions only names content = some file ↔
      (file.names = names ∧ file.content = content) ∧ exclusions.excludes file.path = false ∧
        config.languageFor? file.path.toList = some file.language ∧
        ∀ language ∈ only, file.language = language := by
  obtain ⟨fileNames, fileLanguage, fileContent⟩ := file
  have chosen_iff :
      only.all (· = fileLanguage) = true ↔ ∀ language ∈ only, fileLanguage = language := by
    cases only with
    | none => simp
    | some language => simp [eq_comm (a := fileLanguage)]
  rw [admit?, FoundFile.path]
  constructor
  · intro admitted
    split at admitted
    · cases admitted
    · next kept =>
      obtain ⟨language, known, wanted⟩ := Option.bind_eq_some_iff.mp admitted
      split at wanted
      · next chosen =>
        cases wanted
        exact ⟨⟨rfl, rfl⟩, eq_false_of_ne_true kept, known, chosen_iff.mp chosen⟩
      · cases wanted
  · rintro ⟨⟨rfl, rfl⟩, kept, known, wanted⟩
    simp only [kept, known, Bool.false_eq_true, if_false, Option.bind_eq_bind, Option.bind_some,
      if_pos (chosen_iff.mpr wanted)]

private theorem mem_collect {tree : FileTree} {file : FoundFile} :
    file ∈ collect config exclusions only tree ↔
      tree.HasFile file.names file.content ∧
      (∀ name ∈ file.names.dropLast, isSkippedDirectory name = false) ∧
        exclusions.excludes file.path = false ∧
        config.languageFor? file.path.toList = some file.language ∧
        ∀ language ∈ only, file.language = language := by
  rw [collect, List.mem_filterMap]
  constructor
  · rintro ⟨⟨names, content⟩, found, admitted⟩
    obtain ⟨⟨rfl, rfl⟩, wanted⟩ := admit?_eq_some.mp admitted
    obtain ⟨reached, entered⟩ := (FileTree.mem_files isSkippedDirectory).mp found
    exact ⟨reached, entered, wanted⟩
  · rintro ⟨reached, entered, wanted⟩
    exact ⟨(file.names, file.content),
      (FileTree.mem_files isSkippedDirectory).mpr ⟨reached, entered⟩,
      admit?_eq_some.mpr ⟨⟨rfl, rfl⟩, wanted⟩⟩

private theorem pairwise_collect {tree : FileTree} (wellFormed : tree.WellFormed) :
    (collect config exclusions only tree).Pairwise fun first second =>
      first.names < second.names := by
  rw [collect, List.pairwise_filterMap]
  refine (FileTree.pairwise_files isSkippedDirectory wellFormed).imp ?_
  intro first second lower one fromFirst other fromSecond
  rw [(admit?_eq_some.mp fromFirst).1.1, (admit?_eq_some.mp fromSecond).1.1]
  exact lower

end Collected

/-- The files that are collected under a directory are exactly those that names lead to, with no
directory on the way that is hidden or holds dependencies or build results, whose path from there is
not left out and whose path has a language that is wanted. Each comes once, with that language, and
the bytes of their names decide on their order. -/
theorem collect_exact {entries : List (String × FileTree)}
    (wellFormed : (FileTree.directory entries).WellFormed) (root : List Char) (config : Config)
    (exclusions : Exclusions) (only : Option Language) :
    let collected := collect config exclusions only (.directory entries)
    (∀ file : FoundFile, file ∈ collected ↔
      (FileTree.directory entries).HasFile file.names file.content ∧
      (∀ name ∈ file.names.dropLast, name.toList.head? ≠ some '.' ∧ name ∉ skippedDirectories) ∧
      exclusions.excludes file.path = false ∧
      config.languageFor? (root ++ '/' :: file.path.toList) = some file.language ∧
      ∀ language ∈ only, file.language = language) ∧
    (collected.map FoundFile.names).Nodup ∧
    collected.Pairwise fun first second =>
      first.names.map nameBytes < second.names.map nameBytes := by
  have ordered : (collect config exclusions only (.directory entries)).Pairwise fun first second =>
      first.names < second.names := pairwise_collect wellFormed
  have distinct : (collect config exclusions only (.directory entries)).Pairwise fun first second =>
      first.names ≠ second.names := by
    refine ordered.imp fun lower same => ?_
    rw [same] at lower
    exact List.lt_irrefl _ lower
  refine ⟨fun file => ?_, List.pairwise_map.mpr distinct, ordered.imp map_nameBytes_lt⟩
  rw [mem_collect]
  simp only [isSkippedDirectory_eq_false]
  refine and_congr_right fun reached => ?_
  have nonempty : file.names ≠ [] := reached.isDirectory_iff.mp rfl
  have hasName : Path.segments file.path.toList ≠ [] := by
    rw [FoundFile.path, Path.segments_intercalate nonempty (reached.isName wellFormed)]
    simpa using nonempty
  rw [config.languageFor?_append hasName]

theorem hidden_file_collected :
    let tree : FileTree := .directory
      [(".git", .directory [("hook.rs", .file (.ok []))]),
        ("src", .directory [(".build.rs", .file (.ok [59])), ("target", .file (.ok []))])]
    tree.WellFormed ∧ ⟨["src", ".build.rs"], .rust, .ok [59]⟩ ∈ collect {} ⟨[]⟩ none tree ∧
      ⟨[".git", "hook.rs"], .rust, .ok []⟩ ∉ collect {} ⟨[]⟩ none tree := by
  intro tree
  have wellFormed : tree.WellFormed := by
    refine .directory (by decide) (by decide) ?_
    simp only [List.forall_mem_cons, List.not_mem_nil, false_implies, implies_true, and_true]
    refine ⟨.directory (by decide) (by decide) ?_, .directory (by decide) (by decide) ?_⟩
    · simp [FileTree.WellFormed.file]
    · simp [FileTree.WellFormed.file]
  have collected := (collect_exact wellFormed "project".toList {} ⟨[]⟩ none).1
  refine ⟨wellFormed, (collected _).mpr ⟨.under (.tail _ (.head _)) (.under (.head _) (.here _)),
    ?_, rfl, ?_, by simp⟩, ?_⟩
  · decide
  · decide
  · intro member
    obtain ⟨_, entered, _⟩ := (collected _).mp member
    exact (entered ".git" (by decide)).1 (by decide)

end Symtab
