import Symtab.Arguments.Invocation
import Symtab.Collect
import Symtab.Config.Load
import Symtab.Language.Sample
import Symtab.Query
import Symtab.Report.Document
import Symtab.Report.Table
import Symtab.Scan.Basic

/-!
# Commands

What the commands of the program do with the files that they see: the text that they write, their
messages and their exit code. A run ends with 0, with 1 if an empty report counts as a failure, and
with 2 after an error.
-/

set_option autoImplicit false

namespace Symtab

/-- What a run leaves behind. -/
structure Outcome where
  exitCode : Nat
  output : String := ""
  messages : String := ""
  /-- The files that could not be read and are left out of the report, each with the reason. -/
  skipped : List (String × FileError) := []
  deriving DecidableEq, Repr

/-- Why a query cannot be built. -/
inductive QueryError where
  | unknownKind (name : String)
  | unknownSortKey (error : UnknownSortKey)
  deriving DecidableEq, Repr

/-- The wording of an error. -/
def QueryError.message : QueryError → String
  | .unknownKind name => Kind.unknownMessage name
  | .unknownSortKey error => error.message

/-- Why a command cannot do its work. -/
inductive CommandError where
  | config (error : ConfigError)
  | language (error : UnsupportedLanguage)
  | format (error : UnknownFormat)
  | query (error : QueryError)
  | inaccessible (path : String) (cause : FileError)
  /-- The language of a single file is neither given nor known from its name. -/
  | unknownLanguage (path : String)
  deriving DecidableEq, Repr

/-- The wording of an error. -/
def CommandError.message : CommandError → String
  | .config error => error.message
  | .language error => error.message
  | .format error => error.message
  | .query error => error.message
  | .inaccessible path cause =>
    "cannot access path " ++ Text.quotedPath path ++ ": " ++ cause.message
  | .unknownLanguage path => "cannot tell the language of " ++ path ++ ", use --lang"

/-- What a run leaves behind after an error. -/
def CommandError.outcome (error : CommandError) : Outcome where
  exitCode := 2
  messages := "Error: " ++ error.message ++ "\n"

/-- The same result with another type of cause. -/
def mapCause {α ε δ : Type} (convert : ε → δ) : Except ε α → Except δ α
  | .ok value => .ok value
  | .error error => .error (convert error)

/-- The kind of a name. -/
def parseKind (name : String) : Except QueryError Kind :=
  match Kind.parse? name with
  | some kind => .ok kind
  | none => .error (.unknownKind name)

namespace ScanArguments

/-- The query that arguments ask for. Without kinds of their own, the kinds of the configuration are
chosen. -/
def query (arguments : ScanArguments) (config : Config) : Except QueryError Query := do
  let kinds ← if arguments.kinds.isEmpty then pure config.kinds else arguments.kinds.mapM parseKind
  let sort ← mapCause .unknownSortKey (SortKey.parse arguments.sort)
  let order := if arguments.descending then .descending else .ascending
  return { search := arguments.search, kinds, sort, order }

/-- The language that arguments ask for. -/
def only (arguments : ScanArguments) : Except UnsupportedLanguage (Option Language) :=
  match arguments.language with
  | none => .ok none
  | some id => (Language.ofId id).map some

/-- The format that arguments ask for, or the one of the configuration, or a table. -/
def reportFormat (arguments : ScanArguments) (config : Config) : Except UnknownFormat Format :=
  match arguments.format with
  | none => .ok (config.format.getD .pretty)
  | some written => Format.parse written

end ScanArguments

/-- The text of a report in a format. -/
def report (format : Format) (colored : Bool) (files : List ScannedFile) (withCounts : Bool) :
    String :=
  match format with
  | .pretty => Table.render colored files withCounts
  | .json => (Document.ofFiles files withCounts).print

/-- A file with the symbols that a query chooses, if it can be read. Bytes that are no text are read
as replacement characters. -/
def FoundFile.scanned? (query : Query) (file : FoundFile) : Option ScannedFile := do
  let bytes ← file.content.toOption
  let symbols := scan file.language (String.ofList (Text.decodeLossy bytes))
  return { path := file.path, language := file.language, symbols := query.apply symbols }

/-- A file that cannot be read, with the reason. -/
def FoundFile.failure? (file : FoundFile) : Option (String × FileError) :=
  match file.content with
  | .ok _ => none
  | .error cause => some (file.path, cause)

/-- The files to scan at a place: those of a directory, or the file there. -/
def filesAt (workspace : Workspace) (config : Config) (only : Option Language) (path : String)
    (trail : FileTree.Trail) :
    Except CommandError (List FoundFile) :=
  match trail.target workspace.root, trail with
  | .file content, (name, _) :: _ =>
    match only <|> config.languageFor? name.toList with
    | some language => .ok [{ names := [name], language, content }]
    | none => .error (.unknownLanguage path)
  | tree, _ => do
    let exclusions ← mapCause (fun error => CommandError.config (.badPattern error))
      config.exclusions
    return collect config exclusions only tree

/-- What a scan works with. -/
structure ScanPlan where
  format : Format
  query : Query
  files : List FoundFile

/-- What a scan works with, or the first thing that is wrong. -/
def ScanPlan.make (workspace : Workspace) (arguments : ScanArguments) :
    Except CommandError ScanPlan := do
  let loaded ← mapCause .config (Config.load workspace arguments.config)
  let only ← mapCause .language arguments.only
  let format ← mapCause .format (arguments.reportFormat loaded.config)
  let query ← mapCause .query (arguments.query loaded.config)
  let trail ← mapCause (.inaccessible arguments.path) (workspace.locate arguments.path)
  let files ← filesAt workspace loaded.config only arguments.path trail
  return { format, query, files }

/-- The exit code of a scan with a number of symbols. -/
def scanExitCode (failEmpty : Bool) (symbols : Nat) : Nat :=
  if failEmpty && symbols == 0 then 1 else 0

/-- What a scan leaves behind. Without files there is no report but a warning. -/
def ScanPlan.run (plan : ScanPlan) (colored withCounts failEmpty : Bool) : Outcome :=
  let scanned := plan.files.filterMap (FoundFile.scanned? plan.query)
  { exitCode := scanExitCode failEmpty (totalSymbols scanned)
    output := if plan.files.isEmpty then "" else report plan.format colored scanned withCounts
    messages := if plan.files.isEmpty then "Warning: no files to scan\n" else ""
    skipped := plan.files.filterMap FoundFile.failure? }

/-- Scans files. -/
def runScan (workspace : Workspace) (colored : Bool) (arguments : ScanArguments) : Outcome :=
  match ScanPlan.make workspace arguments with
  | .ok plan => plan.run colored arguments.withCounts arguments.failEmpty
  | .error error => error.outcome

/-- The line of a language in the list of languages. -/
def languageLine (language : Language) : String :=
  let column (text : String) : String := String.ofList (Alignment.left.pad 12 text.toList)
  "  " ++ column language.id ++ " " ++ column language.displayName ++ " " ++
    language.extension ++ "\n"

/-- The list of languages. -/
def languageList : String :=
  "Supported languages:\n\n" ++ String.join (Language.all.map languageLine) ++
    "\nUsage:\n  symscan scan <path> --lang <id>\n  symscan languages --example <id>\n"

/-- The report on the example of a language. -/
def scanExample (colored : Bool) (id : String) (format : String) : Except CommandError String := do
  let language ← mapCause .language (Language.ofId id)
  let format ← mapCause .format (Format.parse format)
  let file : ScannedFile :=
    { path := "example" ++ language.extension, language, symbols := scan language language.sample }
  return report format colored [file] true

/-- What the command that lists the languages writes. -/
def languagesOutput (colored : Bool) (arguments : LanguagesArguments) :
    Except CommandError String :=
  match arguments.example?, arguments.scanExample? with
  | some id, _ => do return (← mapCause .language (Language.ofId id)).sample ++ "\n"
  | none, some id => scanExample colored id arguments.format
  | none, none => .ok languageList

/-- Lists the languages, or shows or scans the example of one. -/
def runLanguages (colored : Bool) (arguments : LanguagesArguments) : Outcome :=
  match languagesOutput colored arguments with
  | .ok output => { exitCode := 0, output }
  | .error error => error.outcome

/-- Does what a run is asked to do. -/
def Command.run (workspace : Workspace) (colored : Bool) : Command → Outcome
  | .scan arguments => runScan workspace colored arguments
  | .languages arguments => runLanguages colored arguments

end Symtab
