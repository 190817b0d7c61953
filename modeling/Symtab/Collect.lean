import Symtab.Config.Basic
import Symtab.FileTree

/-!
# Collecting files

The files under a directory that are scanned, each with its language, as a walk over the directory
meets them. Hidden directories and those that hold dependencies or build results are passed over,
wherever they are below the root; hidden files are not.
-/

set_option autoImplicit false

namespace Symtab

/-- The directories that hold dependencies or build results. -/
def skippedDirectories : List String :=
  ["vendor", "node_modules", "target", "__pycache__", "venv", "bin", "obj"]

/-- Whether a directory of this name is passed over. -/
def isSkippedDirectory (name : String) : Bool :=
  name.toList.head? == some '.' || skippedDirectories.contains name

/-- A file to scan. -/
structure FoundFile where
  /-- The names that lead to the file from the root of the search. -/
  names : List String
  language : Language
  content : FileContent
  deriving Repr

/-- The path of a file from the root of the search. -/
def FoundFile.path (file : FoundFile) : String :=
  String.intercalate "/" file.names

/-- The file as one to scan, if its path is not left out and its language is known and wanted. -/
def admit? (config : Config) (exclusions : Exclusions) (only : Option Language)
    (names : List String) (content : FileContent) : Option FoundFile := do
  let path := String.intercalate "/" names
  if exclusions.excludes path then
    none
  else
    let language ← config.languageFor? path.toList
    if only.all (· = language) then some { names, language, content } else none

/-- The files of a directory to scan, in the order in which they are met. -/
def collect (config : Config) (exclusions : Exclusions) (only : Option Language)
    (tree : FileTree) : List FoundFile :=
  (tree.files isSkippedDirectory).filterMap fun (names, content) =>
    admit? config exclusions only names content

end Symtab
