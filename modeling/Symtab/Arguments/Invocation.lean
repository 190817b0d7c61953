import Symtab.Arguments.Basic

/-!
# What a run is asked to do

The commands of the program with their arguments: scanning files, and listing the languages with
their examples.
-/

set_option autoImplicit false

namespace Symtab

/-- The arguments of the command that scans files. -/
structure ScanArguments where
  /-- The file or directory to scan. -/
  path : String
  /-- The language, where it is given. -/
  language : Option String := none
  format : Option String := none
  kinds : List String := []
  search : Option String := none
  sort : String := "line"
  descending : Bool := false
  withCounts : Bool := false
  /-- Whether a report without symbols is a failure. -/
  failEmpty : Bool := false
  /-- The configuration file, where one is named. -/
  config : Option String := none
  deriving DecidableEq, Repr

/-- The arguments of the command that lists the languages. -/
structure LanguagesArguments where
  /-- The language whose example is shown. -/
  example? : Option String := none
  /-- The language whose example is scanned. -/
  scanExample? : Option String := none
  format : String := "pretty"
  deriving DecidableEq, Repr

/-- What to do. -/
inductive Command where
  | scan (arguments : ScanArguments)
  | languages (arguments : LanguagesArguments)
  deriving DecidableEq, Repr

/-- What a run is asked to do, and how much it tells about it. -/
structure Invocation where
  verbosity : Nat
  command : Command
  deriving DecidableEq, Repr

namespace Invocation

open Arguments

/-- The option that asks for more messages. -/
def verbose : Parameter := { name := "verbose", short := some 'v', action := .count }

/-- The option that asks for help. -/
def help : Parameter := { name := "help", short := some 'h', action := .help }

/-- What the program takes before the name of a command. -/
def programSignature : Signature where
  options := [verbose, help, { name := "version", short := some 'V', action := .version }]
  subcommands := ["scan", "languages", "help"]

/-- What the command that scans files takes. -/
def scanSignature : Signature where
  options :=
    [verbose, help, { name := "lang", short := some 'l' }, { name := "format", short := some 'f' },
     { name := "kind", short := some 'k', action := .values },
     { name := "search", short := some 's' }, { name := "sort" },
     { name := "desc", action := .flag }, { name := "stats", action := .flag },
     { name := "fail-empty", action := .flag },
     { name := "config", short := some 'c', refusesEmpty := true }]
  positionals := [{ name := "path", refusesEmpty := true }]

/-- What the command that lists the languages takes. -/
def languagesSignature : Signature where
  options :=
    [verbose, help, { name := "example" }, { name := "scan-example" },
     { name := "format", short := some 'f' }]

/-- The arguments of the command that scans files, which need a path. -/
def scanArguments (reading : Reading) : Except UsageError ScanArguments :=
  match reading.value? "path" with
  | none => .error .missingRequiredArgument
  | some path =>
    .ok
      { path
        language := reading.value? "lang"
        format := reading.value? "format"
        kinds := reading.values "kind"
        search := reading.value? "search"
        sort := (reading.value? "sort").getD "line"
        descending := reading.has "desc"
        withCounts := reading.has "stats"
        failEmpty := reading.has "fail-empty"
        config := reading.value? "config" }

/-- The arguments of the command that lists the languages; an example is either shown or scanned. -/
def languagesArguments (reading : Reading) : Except UsageError LanguagesArguments :=
  if reading.has "example" && reading.has "scan-example" then
    .error .argumentConflict
  else
    .ok
      { example? := reading.value? "example"
        scanExample? := reading.value? "scan-example"
        format := (reading.value? "format").getD "pretty" }

/-- The greatest verbosity. -/
def verbosityLimit : Nat := 255

/-- The verbosity asked for by a command or, if it does not say, by the program. -/
def askedVerbosity (program command : Reading) : Nat :=
  min verbosityLimit
    (if command.has "verbose" then command.count "verbose" else program.count "verbose")

/-- The help asked for: about the program, or about one of its commands. -/
def helpAbout (topics : List String) : UsageError :=
  match topics with
  | [] => .helpRequested
  | [topic] =>
    if programSignature.subcommands.contains topic then .helpRequested else .invalidSubcommand
  | _ => .invalidSubcommand

/-- What the arguments of a run ask for. -/
def parse (arguments : List String) : Except UsageError Invocation := do
  let (program, subcommand) ← programSignature.read arguments
  match subcommand with
  | none => throw (if program.given.isEmpty then .noArguments else .missingSubcommand)
  | some ⟨"scan", arguments⟩ =>
    let (command, _) ← scanSignature.read arguments
    return ⟨askedVerbosity program command, .scan (← scanArguments command)⟩
  | some ⟨"languages", arguments⟩ =>
    let (command, _) ← languagesSignature.read arguments
    return ⟨askedVerbosity program command, .languages (← languagesArguments command)⟩
  | some ⟨_, topics⟩ => throw (helpAbout topics)

end Invocation

end Symtab
