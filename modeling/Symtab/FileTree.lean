import Symtab.Text.Utf8

/-!
# Files and directories

Paths, a tree of directories and files, the places in it that paths lead to, and the reasons why a
path leads nowhere or to something that cannot be read. A path is followed segment by segment from a
starting directory, or from the root if it starts with a slash.
-/

set_option autoImplicit false

namespace Symtab

/-!
## Paths

A path is a text whose segments are separated by slashes. Empty segments and segments that are a
single dot mean nothing; two dots mean the parent directory and are no name.
-/

namespace Path

/-- The segments of a path that mean something. -/
def segments (path : List Char) : List (List Char) :=
  (path.splitOn '/').filter fun segment => !segment.isEmpty && segment != ['.']

/-- The name that a path ends in. -/
def fileName? (path : List Char) : Option (List Char) :=
  (segments path).getLast?.filter (· != ['.', '.'])

/-- What stands before and after the last dot of a name. -/
def splitExtension? (name : List Char) : Option (List Char × List Char) :=
  match name.reverse.span (· != '.') with
  | (after, _ :: before) => some (before.reverse, after.reverse)
  | (_, []) => none

/-- The extension of a path: what stands after the last dot of its name. A name that only starts
with a dot has no extension. -/
def extension? (path : List Char) : Option (List Char) := do
  let (stem, extension) ← splitExtension? (← fileName? path)
  if stem.isEmpty then none else some extension

end Path

/-!
## Trees
-/

/-- Why a file cannot be reached or read. -/
inductive FileError where
  | notFound
  | notDirectory
  | isDirectory
  | nameTooLong
  /-- The path holds a null character. -/
  | nullCharacter
  /-- The content is no text. -/
  | notText
  /-- The system has another reason, with a number of its own. -/
  | system (description : String) (number : Nat)
  deriving DecidableEq, Repr

/-- The wording of an error. -/
def FileError.message : FileError → String
  | .notFound => "No such file or directory (os error 2)"
  | .notDirectory => "Not a directory (os error 20)"
  | .isDirectory => "Is a directory (os error 21)"
  | .nameTooLong => "File name too long (os error 36)"
  | .nullCharacter => "file name contained an unexpected NUL byte"
  | .notText => "stream did not contain valid UTF-8"
  | .system description number => description ++ " (os error " ++ Nat.repr number ++ ")"

/-- The bytes of a file, or the reason why it cannot be read. -/
abbrev FileContent := Except FileError (List UInt8)

/-- A file, or a directory with its entries by name. -/
inductive FileTree where
  | file (content : FileContent)
  | directory (entries : List (String × FileTree))
  deriving Repr

namespace FileTree

/-- Whether a tree is a directory. -/
def isDirectory : FileTree → Bool
  | .directory _ => true
  | .file _ => false

/-- The entries of a directory; a file has none. -/
def entries : FileTree → List (String × FileTree)
  | .directory entries => entries
  | .file _ => []

/-- The entries with the one of a name replaced or added. -/
def replaceEntry (name : String) (tree : FileTree) :
    List (String × FileTree) → List (String × FileTree)
  | [] => [(name, tree)]
  | entry :: rest =>
    if entry.1 = name then (name, tree) :: rest else entry :: replaceEntry name tree rest

/-- The tree with a change at a place; the directories on the way there are made where they are
missing. -/
def update (change : FileTree → FileTree) : List String → FileTree → FileTree
  | [], tree => change tree
  | name :: rest, tree =>
    let child := (tree.entries.lookup name).getD (.directory [])
    .directory (replaceEntry name (update change rest child) tree.entries)

/-- The tree with a file at a place. -/
def writeFile (tree : FileTree) (place : List String) (content : List UInt8) : FileTree :=
  tree.update (fun _ => .file (.ok content)) place

/-- The tree with a directory at a place; one that is there already stays as it is. -/
def makeDirectory (tree : FileTree) (place : List String) : FileTree :=
  tree.update (fun old => if old.isDirectory then old else .directory []) place

/-- The number of bytes that a name may have. -/
def nameLimit : Nat := 255

/-- The number of bytes that a path must not reach. -/
def pathLimit : Nat := 4096

/-- The number of bytes of a text. -/
def byteLength (text : String) : Nat :=
  text.utf8ByteSize

/-- A place in a tree: the entries that lead there, innermost first. -/
abbrev Trail := List (String × FileTree)

/-- What stands at a place. -/
def Trail.target (root : FileTree) (trail : Trail) : FileTree :=
  match trail with
  | [] => root
  | (_, tree) :: _ => tree

/-- The place one segment further. Every segment starts from a directory; an empty one and a single
dot stay there, and two dots lead to the directory around it. -/
def enter (root : FileTree) (trail : Trail) (segment : String) : Except FileError Trail :=
  match trail.target root with
  | .file _ => .error .notDirectory
  | .directory entries =>
    if segment = "" ∨ segment = "." then .ok trail
    else if segment = ".." then .ok trail.tail
    else if nameLimit < byteLength segment then .error .nameTooLong
    else
      match entries.lookup segment with
      | some tree => .ok ((segment, tree) :: trail)
      | none => .error .notFound

/-- The segments of a path, empty ones included. -/
def pathSegments (path : String) : List String :=
  (path.toList.splitOn '/').map String.ofList

/-- The place that a path leads to from a starting place. -/
def locate (root : FileTree) (start : Trail) (path : String) : Except FileError Trail :=
  if path.toList.contains '\x00' then .error .nullCharacter
  else if path = "" then .error .notFound
  else if pathLimit ≤ byteLength path then .error .nameTooLong
  else (pathSegments path).foldlM (enter root) (if path.toList.head? = some '/' then [] else start)

/-- The entries of a directory in the order of their names. -/
def sortedEntries (entries : List (String × FileTree)) : List (String × FileTree) :=
  entries.mergeSort fun first second => !decide (second.1 < first.1)

theorem sizeOf_lt_of_mem_sortedEntries {entries : List (String × FileTree)}
    {entry : String × FileTree} (member : entry ∈ sortedEntries entries) :
    sizeOf entry.2 < sizeOf (directory entries) := by
  have listed := List.sizeOf_lt_of_mem (List.mem_mergeSort.mp member)
  rw [directory.sizeOf_spec]
  have inside : sizeOf entry = 1 + sizeOf entry.1 + sizeOf entry.2 := rfl
  omega

/-- The files of a tree with the names that lead to them. A directory is walked entry by entry, in
the order of the names, with everything in an entry before the next one. Directories in it are
passed over by name. -/
def files (passesOver : String → Bool) : FileTree → List (List String × FileContent)
  | .file content => [([], content)]
  | .directory entries =>
    (sortedEntries entries).attach.flatMap fun ⟨(name, tree), _⟩ =>
      if tree.isDirectory && passesOver name then []
      else (files passesOver tree).map fun (names, content) => (name :: names, content)
termination_by tree => sizeOf tree
decreasing_by exact sizeOf_lt_of_mem_sortedEntries ‹_›

end FileTree

/-- The files that a run sees, and the directory that it runs in. -/
structure Workspace where
  root : FileTree
  /-- The place of the working directory. -/
  current : FileTree.Trail
  /-- The path of the working directory as it is shown. -/
  shownCurrent : String
  /-- The words that the reader of YAML has for a text that is no configuration, where they are
  known. -/
  yamlComplaint? : String → Option String := fun _ => none

namespace Workspace

/-- The place that a path leads to. -/
def locate (workspace : Workspace) (path : String) : Except FileError FileTree.Trail :=
  workspace.root.locate workspace.current path

/-- What a path leads to. -/
def find (workspace : Workspace) (path : String) : Except FileError FileTree := do
  return (← workspace.locate path).target workspace.root

/-- Whether a path leads to a file. -/
def isFile (workspace : Workspace) (path : String) : Bool :=
  match workspace.find path with
  | .ok (.file _) => true
  | _ => false

/-- The text of a file. -/
def readText (workspace : Workspace) (path : String) : Except FileError String := do
  match ← workspace.find path with
  | .directory _ => throw .isDirectory
  | .file content =>
    let bytes ← content
    let text := Text.decodeLossy bytes
    if Text.encode text = bytes then return String.ofList text else throw .notText

end Workspace

end Symtab
