import Symtab.Command

/-!
# The program

Reads the files that a run needs, does what the arguments ask for, and writes what it leaves behind.
-/

set_option autoImplicit false

namespace Symtab.Program

/-- The absolute path of a place. -/
def pathOf (place : List String) : String :=
  "/" ++ String.intercalate "/" place

/-- The names that lead to a path from the root. -/
def placeOf (path : String) : List String :=
  (Path.segments path.toList).map String.ofList

/-- Why the system refuses to read a file. -/
def readFailure : IO.Error → FileError
  | .permissionDenied _ number description => .system description number.toNat
  | .otherError number description => .system description number.toNat
  | error => .system (toString error) 0

/-- A file of the system, with its content or the reason why it cannot be read. -/
def readFile (path : String) : IO FileTree := do
  try
    return .file (.ok (← IO.FS.readBinFile path).toList)
  catch error =>
    return .file (.error (readFailure error))

/-- The tree at a place. Directories that are passed over are left empty. -/
partial def readTree (place : List String) : IO FileTree := do
  let path ← IO.FS.realPath (pathOf place)
  if ← path.isDir then
    let mut entries : List (String × FileTree) := []
    for entry in ← path.readDir do
      try
        let inner ← IO.FS.realPath (pathOf (place ++ [entry.fileName]))
        if (← inner.isDir) && isSkippedDirectory entry.fileName then
          entries := (entry.fileName, .directory []) :: entries
        else
          entries := (entry.fileName, ← readTree (place ++ [entry.fileName])) :: entries
      catch _ =>
        pure ()
    return .directory entries
  else
    readFile (pathOf place)

/-- Adds to a tree the directories and the file that a path leads to from a place. -/
def addPath : List String → List String → FileTree → IO FileTree
  | _, [], tree => return tree
  | place, segment :: rest, tree => do
    if segment = "" ∨ segment = "." then
      addPath place rest tree
    else if segment = ".." then
      addPath place.dropLast rest tree
    else
      let next := place ++ [segment]
      try
        let path ← IO.FS.realPath (pathOf next)
        if ← path.isDir then
          addPath next rest (tree.makeDirectory next)
        else
          let file ← readFile (pathOf next)
          return tree.update (fun _ => file) next
      catch _ =>
        return tree

/-- The working directory in a tree. -/
def currentIn (tree : FileTree) (start : List String) : FileTree.Trail :=
  (tree.locate [] (pathOf start)).toOption.getD []

/-- Adds to a tree what a path leads to, and everything below it if it is a directory. -/
def addTree (start : List String) (path : String) (tree : FileTree) : IO FileTree := do
  let place := if path.toList.head? = some '/' then [] else start
  let tree ← addPath place (FileTree.pathSegments path) tree
  match tree.locate (currentIn tree start) path with
  | .error _ => return tree
  | .ok trail =>
    let names := trail.reverse.map (·.1)
    let found ← readTree names
    return tree.update (fun _ => found) names

/-- The files that a run needs. -/
def readWorkspace (command : Command) : IO Workspace := do
  let shownCurrent := (← IO.currentDir).toString
  let start := placeOf shownCurrent
  let mut tree := (FileTree.directory []).makeDirectory start
  match command with
  | .languages _ => pure ()
  | .scan arguments =>
    tree ← addTree start arguments.path tree
    for name in arguments.config.toList ++ Config.usualNames do
      let place := if name.toList.head? = some '/' then [] else start
      tree ← addPath place (FileTree.pathSegments name) tree
  return {
    root := tree
    current := currentIn tree start
    shownCurrent
    yamlComplaint? := fun _ => some "not a configuration" }

/-- A short account of the arguments. -/
def usage : String :=
  "Usage: symscan [-v] <COMMAND>\n\nCommands:\n  scan       Extract symbols from a file or directory\n" ++
  "  languages  List supported languages and their example snippets\n  help       Print this message\n"

/-- Answers arguments that do not say what to do. -/
def answerUsage (error : UsageError) : IO Unit := do
  match error with
  | .helpRequested => IO.print usage
  | .versionRequested => IO.println (programName ++ " " ++ version)
  | _ => IO.eprint usage

end Symtab.Program

open Symtab in
/-- Runs the program with its arguments. -/
def main (arguments : List String) : IO UInt32 := do
  match Invocation.parse arguments with
  | .error error =>
    Program.answerUsage error
    return error.exitCode.toUInt32
  | .ok invocation =>
    let workspace ← Program.readWorkspace invocation.command
    let colored := (← (← IO.getStdout).isTty) && (← IO.getEnv "NO_COLOR").isNone
    let outcome := invocation.command.run workspace colored
    for (path, cause) in outcome.skipped do
      IO.eprintln ("WARN skipping unreadable file path=" ++ path ++ " error=" ++ cause.message)
    IO.print outcome.output
    IO.eprint outcome.messages
    return outcome.exitCode.toUInt32
