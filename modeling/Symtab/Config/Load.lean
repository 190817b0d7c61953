import Symtab.Config.Yaml
import Symtab.FileTree

/-!
# Loading the configuration

The configuration comes from the file that is named, or else from the first file of a usual name in
the working directory, or else it is the default one.
-/

set_option autoImplicit false

namespace Symtab

/-- A file that holds no configuration. -/
structure MalformedConfig where
  path : String
  /-- What the reader of YAML says about the file, where it is known. -/
  complaint : Option String
  deriving DecidableEq, Repr

/-- The wording of the error about a file that holds no configuration. -/
def MalformedConfig.message (error : MalformedConfig) : String :=
  "invalid config " ++ error.path ++
    match error.complaint with
    | some complaint => ": " ++ complaint
    | none => ""

/-- Why a configuration cannot be loaded. -/
inductive ConfigError where
  | unreadable (path : String) (cause : FileError)
  | malformed (error : MalformedConfig)
  | badPattern (error : BadPattern)
  deriving DecidableEq, Repr

/-- The wording of an error. -/
def ConfigError.message : ConfigError → String
  | .unreadable path cause => "failed to read " ++ path ++ ": " ++ cause.message
  | .malformed error => error.message
  | .badPattern error => error.message

/-- A configuration and the file that it comes from. -/
structure LoadedConfig where
  config : Config := {}
  path : Option String := none

namespace Config

/-- The usual names of configuration files, in the order in which they are tried. -/
def usualNames : List String :=
  ["symscan.yaml", ".symscan.yaml"]

/-- The configuration in a file. All patterns of the configuration are checked. -/
def readFile (workspace : Workspace) (path : String) : Except ConfigError Config :=
  match workspace.readText path with
  | .error cause => .error (.unreadable path cause)
  | .ok text =>
    match ofYaml? text with
    | none => .error (.malformed ⟨path, workspace.yamlComplaint? text⟩)
    | some config =>
      match config.exclusions with
      | .error error => .error (.badPattern error)
      | .ok _ => .ok config

/-- The configuration in the file of the working directory that is found first. -/
def loadUsual (workspace : Workspace) : Except ConfigError LoadedConfig :=
  match usualNames.find? workspace.isFile with
  | none => .ok {}
  | some name =>
    let shown := workspace.shownCurrent ++ "/" ++ name
    match readFile workspace name with
    | .ok config => .ok { config, path := some shown }
    | .error (.unreadable _ cause) => .error (.unreadable shown cause)
    | .error (.malformed error) => .error (.malformed { error with path := shown })
    | .error (.badPattern error) => .error (.badPattern error)

/-- The configuration of a run: the one in the named file, the one found in the working directory,
or the default one. -/
def load (workspace : Workspace) (named : Option String) : Except ConfigError LoadedConfig :=
  match named with
  | some path => (readFile workspace path).map fun config => { config, path := some path }
  | none => loadUsual workspace

end Config

end Symtab
