import Symtab.Config.Extensions
import Symtab.FileTree
import Symtab.Glob.Parse
import Symtab.Kind
import Symtab.Report.Format

/-!
# Configuration

What is scanned and how the results are shown: patterns of paths to leave out, languages for further
file extensions, the kinds of symbols to report, and the format of the report.
-/

set_option autoImplicit false

namespace Symtab

/-- The settings of a run. -/
structure Config where
  version : String := ""
  /-- The patterns of the paths that are left out. -/
  excludedPaths : List String := []
  /-- The languages of further extensions. -/
  extensions : ExtensionTable := .empty
  /-- The kinds to report; all if there are none. -/
  kinds : List Kind := []
  /-- The format of reports, where it is set. -/
  format : Option Format := none

/-- A text among the patterns that is no pattern. -/
structure BadPattern where
  pattern : String
  cause : Glob.ParseError
  deriving DecidableEq, Repr

/-- The wording of the error about a text that is no pattern. -/
def BadPattern.message (error : BadPattern) : String :=
  "invalid excluded_paths pattern " ++ Text.quoted error.pattern ++ ": error parsing glob '" ++
    error.pattern ++ "': " ++
    error.cause.message

/-- The patterns of the paths that are left out. -/
structure Exclusions where
  patterns : List Glob.Tokens

/-- Whether a path is left out. -/
def Exclusions.excludes (exclusions : Exclusions) (path : String) : Bool :=
  exclusions.patterns.any (·.matches path)

namespace Config

/-- The pattern that a text denotes. -/
def parsePattern (pattern : String) : Except BadPattern Glob.Tokens :=
  match Glob.Tokens.parse pattern with
  | .ok tokens => .ok tokens
  | .error cause => .error ⟨pattern, cause⟩

/-- The patterns of the paths that are left out, or the first text that is no pattern. -/
def exclusions (config : Config) : Except BadPattern Exclusions := do
  return ⟨← config.excludedPaths.mapM parsePattern⟩

/-- The language of a file, by its extension. The extensions of the configuration are tried before
the usual ones. -/
def languageFor? (config : Config) (path : List Char) : Option Language := do
  let extension := Text.lower (← Path.extension? path)
  match config.extensions.find? extension with
  | some language => some language
  | none => (Language.ofExtension (String.ofList extension)).toOption

end Config

end Symtab
