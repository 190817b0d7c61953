import Mathlib.Algebra.GroupWithZero.Nat
import Symtab.Command

/-!
# Exit codes

How a scan ends. What can go wrong is checked first, one thing after the other, and the first check
that fails ends the run with its message and nothing else. A run that passes all checks reports what
the query leaves of the files that it can read, if there is a file at all, and its exit code tells
whether an empty report counts as a failure.
-/

set_option autoImplicit false

namespace Symtab

/-!
## Computations with a known error
-/

/-- The error of a computation that fails. -/
def cause? {ε α : Type} : Except ε α → Option ε
  | .error error => some error
  | .ok _ => none

/-- The computation fails with the error that is given, and without one it has a value for which a
fact holds. -/
inductive Ends {ε α : Type} : Except ε α → Option ε → (α → Prop) → Prop where
  | failed {holds : α → Prop} (error : ε) : Ends (.error error) (some error) holds
  | passed {holds : α → Prop} {value : α} (known : holds value) : Ends (.ok value) none holds

section Ends

variable {ε δ α β : Type} {failure further : Option ε} {holds : α → Prop} {holdsLater : β → Prop}

private theorem ends_cause? (result : Except ε α) :
    Ends result (cause? result) fun value => result = .ok value := by
  cases result with
  | error error => exact .failed error
  | ok value => exact .passed rfl

theorem Ends.mapCause {result : Except ε α} (ends : Ends result failure holds) (convert : ε → δ) :
    Ends (mapCause convert result) (failure.map convert) holds := by
  cases ends with
  | failed error => exact .failed (convert error)
  | passed known => exact .passed known

theorem Ends.bind {first : Except ε α} {next : α → Except ε β} (ends : Ends first failure holds)
    (later : ∀ value, holds value → Ends (next value) further holdsLater) :
    Ends (first >>= next) (failure.or further) holdsLater := by
  cases ends with
  | failed error => exact .failed error
  | passed known => exact later _ known

theorem Ends.bind_pure {first : Except ε α} (ends : Ends first failure holds) {result : α → β}
    (later : ∀ value, holds value → holdsLater (result value)) :
    Ends (first >>= fun value => pure (result value)) failure holdsLater := by
  cases ends with
  | failed error => exact .failed error
  | passed known => exact .passed (later _ known)

theorem Ends.eq_ok {result : Except ε α} (ends : Ends result none holds) :
    ∃ value, result = .ok value ∧ holds value := by
  cases ends with
  | passed known => exact ⟨_, rfl, known⟩

theorem Ends.eq_error {result : Except ε α} {error : ε} (ends : Ends result (some error) holds) :
    result = .error error := by
  cases ends with
  | failed => rfl

end Ends

/-!
## The checks of a scan
-/

/-- What is checked before files are scanned. -/
inductive ScanCheck where
  | config
  | language
  | format
  | kinds
  | sortKey
  | path
  /-- The language of a single file. -/
  | fileLanguage
  deriving DecidableEq, Repr

namespace ScanCheck

/-- All checks, in the order in which they are made. -/
def all : List ScanCheck :=
  [.config, .language, .format, .kinds, .sortKey, .path, .fileLanguage]

theorem mem_all (check : ScanCheck) : check ∈ all := by
  cases check <;> decide

/-- The error of a check, whether or not others fail before it. -/
def failure? (workspace : Workspace) (arguments : ScanArguments) : ScanCheck → Option CommandError
  | .config => (cause? (Config.load workspace arguments.config)).map .config
  | .language => (arguments.language.bind fun id => cause? (Language.ofId id)).map .language
  | .format => (arguments.format.bind fun written => cause? (Format.parse written)).map .format
  | .kinds =>
    (arguments.kinds.find? fun name => (Kind.parse? name).isNone).map fun name =>
      .query (.unknownKind name)
  | .sortKey =>
    (cause? (SortKey.parse arguments.sort)).map fun error => .query (.unknownSortKey error)
  | .path => (cause? (workspace.locate arguments.path)).map (.inaccessible arguments.path)
  | .fileLanguage =>
    match Config.load workspace arguments.config, workspace.locate arguments.path with
    | .ok loaded, .ok ((name, .file _) :: _) =>
      if arguments.language = none ∧ loaded.config.languageFor? name.toList = none then
        some (.unknownLanguage arguments.path)
      else
        none
    | _, _ => none

end ScanCheck

/-- The files to scan at a path: the one that it leads to, in the language asked for or else in its
own, or those that are collected under the directory that it leads to. -/
inductive Workspace.Targets (workspace : Workspace) (path : String) (config : Config)
    (only : Option Language) : List FoundFile → Prop where
  | file {name : String} {content : FileContent} {outer : FileTree.Trail} {language : Language}
      (located : workspace.locate path = .ok ((name, .file content) :: outer))
      (known : only.or (config.languageFor? name.toList) = some language) :
      Targets workspace path config only [{ names := [name], language, content }]
  | directory {trail : FileTree.Trail} {entries : List (String × FileTree)}
      {exclusions : Exclusions} (located : workspace.locate path = .ok trail)
      (isDirectory : trail.target workspace.root = .directory entries)
      (excluded : config.exclusions = .ok exclusions) :
      Targets workspace path config only (collect config exclusions only (.directory entries))

/-- A path that leads to a file has that file alone as its target. -/
theorem Workspace.Targets.eq_singleton {workspace : Workspace} {path : String} {config : Config}
    {only : Option Language} {found : List FoundFile}
    (targets : workspace.Targets path config only found) {name : String} {content : FileContent}
    {outer : FileTree.Trail} {language : Language}
    (located : workspace.locate path = .ok ((name, .file content) :: outer))
    (known : only.or (config.languageFor? name.toList) = some language) :
    found = [{ names := [name], language, content }] := by
  cases targets with
  | file here knownHere =>
    cases Except.ok.inj (located.symm.trans here)
    cases Option.some.inj (known.symm.trans knownHere)
    rfl
  | directory here isDirectory =>
    cases Except.ok.inj (located.symm.trans here)
    cases isDirectory

/-- The query is the one that the arguments ask for under a configuration. -/
structure ScanArguments.Asks (arguments : ScanArguments) (config : Config) (query : Query) :
    Prop where
  search : query.search = arguments.search
  kinds : if arguments.kinds = [] then query.kinds = config.kinds
    else arguments.kinds.map Kind.parse? = query.kinds.map some
  sort : SortKey.parse arguments.sort = .ok query.sort
  order : query.order = if arguments.descending then .descending else .ascending

/-- The plan is the one that the arguments ask for: under the configuration that is loaded, with the
language that is named if there is one, and with the format that is named, or the one of the
configuration, or a table. -/
structure ScanPlan.Follows (plan : ScanPlan) (workspace : Workspace) (arguments : ScanArguments)
    (loaded : LoadedConfig) (only : Option Language) : Prop where
  loading : Config.load workspace arguments.config = .ok loaded
  named : arguments.language.map Language.ofId = only.map .ok
  format : (arguments.format.map Format.parse).getD (.ok (loaded.config.format.getD .pretty)) =
    .ok plan.format
  query : arguments.Asks loaded.config plan.query
  files : workspace.Targets arguments.path loaded.config only plan.files

/-!
## The steps of a plan
-/

namespace Config

private theorem readFile_exclusions {workspace : Workspace} {path : String} {config : Config}
    (reading : readFile workspace path = .ok config) :
    ∃ exclusions, config.exclusions = .ok exclusions := by
  rw [readFile] at reading
  split at reading
  · cases reading
  · split at reading
    · cases reading
    · split at reading
      · cases reading
      · next exclusions valid =>
        cases reading
        exact ⟨exclusions, valid⟩

/-- The patterns of a configuration that is loaded are patterns. -/
theorem load_exclusions {workspace : Workspace} {named : Option String} {loaded : LoadedConfig}
    (loading : load workspace named = .ok loaded) :
    ∃ exclusions, loaded.config.exclusions = .ok exclusions := by
  cases named with
  | some path =>
    rw [load] at loading
    cases reading : readFile workspace path with
    | error => rw [reading] at loading; cases loading
    | ok config =>
      rw [reading] at loading
      cases loading
      exact readFile_exclusions reading
  | none =>
    rw [load, loadUsual] at loading
    split at loading
    · cases loading
      exact ⟨⟨[]⟩, rfl⟩
    · split at loading
      · next reading =>
        cases loading
        exact readFile_exclusions reading
      · cases loading
      · cases loading
      · cases loading

end Config

section Steps

variable {workspace : Workspace} {arguments : ScanArguments}

private theorem ends_only :
    Ends arguments.only (arguments.language.bind fun id => cause? (Language.ofId id))
      fun only => arguments.language.map Language.ofId = only.map .ok := by
  rw [ScanArguments.only]
  cases arguments.language with
  | none => exact .passed rfl
  | some id =>
    dsimp only [Option.bind_some, Option.map_some]
    cases Language.ofId id with
    | error error => exact .failed error
    | ok language => exact .passed rfl

private theorem ends_reportFormat (config : Config) :
    Ends (arguments.reportFormat config)
      (arguments.format.bind fun written => cause? (Format.parse written))
      fun format => (arguments.format.map Format.parse).getD (.ok (config.format.getD .pretty)) =
        .ok format := by
  rw [ScanArguments.reportFormat]
  cases arguments.format with
  | none => exact .passed rfl
  | some written =>
    dsimp only [Option.bind_some, Option.map_some, Option.getD_some]
    exact ends_cause? (Format.parse written)

private theorem ends_mapM_parseKind (names : List String) :
    Ends (names.mapM parseKind)
      ((names.find? fun name => (Kind.parse? name).isNone).map .unknownKind)
      fun kinds => names.map Kind.parse? = kinds.map some := by
  induction names with
  | nil => exact .passed rfl
  | cons name names ih =>
    rw [List.mapM_cons, parseKind, List.find?_cons]
    cases parsed : Kind.parse? name with
    | none => exact .failed _
    | some kind => exact ih.bind_pure fun kinds same => by simp only [List.map_cons, parsed, same]

private theorem ends_query (config : Config) :
    Ends (arguments.query config)
      (.or ((arguments.kinds.find? fun name => (Kind.parse? name).isNone).map .unknownKind)
        ((cause? (SortKey.parse arguments.sort)).map .unknownSortKey))
      (arguments.Asks config) := by
  have sorted := (ends_cause? (SortKey.parse arguments.sort)).mapCause QueryError.unknownSortKey
  rw [ScanArguments.query]
  split
  · next none =>
    have empty := List.isEmpty_iff.mp none
    rw [empty, List.find?_nil, Option.map_none, Option.none_or, pure_bind]
    refine sorted.bind_pure fun key parsed => ⟨rfl, ?_, parsed, rfl⟩
    rw [if_pos empty]
  · next some =>
    refine (ends_mapM_parseKind arguments.kinds).bind fun kinds known => ?_
    refine sorted.bind_pure fun key parsed => ⟨rfl, ?_, parsed, rfl⟩
    rw [if_neg fun empty => some (List.isEmpty_iff.mpr empty)]
    exact known

private theorem ends_filesAt_directory {config : Config} {exclusions : Exclusions}
    {trail : FileTree.Trail} {entries : List (String × FileTree)}
    (excluded : config.exclusions = .ok exclusions)
    (located : workspace.locate arguments.path = .ok trail)
    (isDirectory : trail.target workspace.root = .directory entries) (only : Option Language) :
    Ends (filesAt workspace config only arguments.path trail) none
      (workspace.Targets arguments.path config only) := by
  unfold filesAt
  rw [isDirectory, excluded]
  exact .passed (.directory located isDirectory excluded)

private theorem ends_filesAt_file {config : Config} {name : String} {content : FileContent}
    {outer : FileTree.Trail}
    (located : workspace.locate arguments.path = .ok ((name, .file content) :: outer))
    (only : Option Language) :
    Ends (filesAt workspace config only arguments.path ((name, .file content) :: outer))
      (if only.or (config.languageFor? name.toList) = none then
        some (.unknownLanguage arguments.path) else none)
      (workspace.Targets arguments.path config only) := by
  unfold filesAt
  dsimp only [FileTree.Trail.target]
  rw [Option.orElse_eq_orElse, Option.orElse_eq_or]
  cases known : only.or (config.languageFor? name.toList) with
  | none => exact .failed _
  | some language => exact .passed (.file located known)

private theorem ends_filesAt {loaded : LoadedConfig} {only : Option Language}
    {trail : FileTree.Trail} (rooted : workspace.root.isDirectory = true)
    (loading : Config.load workspace arguments.config = .ok loaded)
    (named : arguments.language.map Language.ofId = only.map .ok)
    (located : workspace.locate arguments.path = .ok trail) :
    Ends (filesAt workspace loaded.config only arguments.path trail)
      (ScanCheck.fileLanguage.failure? workspace arguments)
      (workspace.Targets arguments.path loaded.config only) := by
  obtain ⟨exclusions, excluded⟩ := Config.load_exclusions loading
  rw [ScanCheck.failure?, loading, located]
  cases trail with
  | nil =>
    cases root : workspace.root with
    | file => rw [root] at rooted; cases rooted
    | directory entries => exact ends_filesAt_directory excluded located root only
  | cons entry outer =>
    obtain ⟨name, tree⟩ := entry
    cases tree with
    | directory entries => exact ends_filesAt_directory excluded located rfl only
    | file content =>
      have missing : arguments.language = none ↔ only = none := by
        rw [← Option.map_eq_none_iff (f := Language.ofId), named, Option.map_eq_none_iff]
      simp only [missing, ← Option.or_eq_none_iff]
      exact ends_filesAt_file located only

private theorem findSome?_cons_or (check : ScanCheck) (checks : List ScanCheck) :
    (check :: checks).findSome? (ScanCheck.failure? workspace arguments) =
      (check.failure? workspace arguments).or
        (checks.findSome? (ScanCheck.failure? workspace arguments)) := by
  rw [List.findSome?_cons]
  cases check.failure? workspace arguments with
  | none => rfl
  | some error => rfl

/-- The error of a plan is that of the first check that fails. -/
theorem ends_make (rooted : workspace.root.isDirectory = true) :
    Ends (ScanPlan.make workspace arguments)
      (ScanCheck.all.findSome? (ScanCheck.failure? workspace arguments))
      fun plan => ∃ loaded only, plan.Follows workspace arguments loaded only := by
  simp only [ScanCheck.all, findSome?_cons_or, List.findSome?_nil, Option.or_none]
  rw [ScanPlan.make]
  refine ((ends_cause? _).mapCause _).bind fun loaded loading => ?_
  refine (ends_only.mapCause _).bind fun only named => ?_
  refine ((ends_reportFormat loaded.config).mapCause _).bind fun format chosen => ?_
  rw [← Option.or_assoc]
  have asked : Ends (mapCause CommandError.query (arguments.query loaded.config)) _ _ :=
    (ends_query loaded.config).mapCause _
  rw [Option.map_or, Option.map_map, Option.map_map] at asked
  refine asked.bind fun query asks => ?_
  refine ((ends_cause? _).mapCause _).bind fun trail located => ?_
  exact (ends_filesAt rooted loading named located).bind_pure fun files targets =>
    ⟨loaded, only, loading, named, chosen, asks, targets⟩

end Steps

/-!
## The outcome
-/

private theorem report_ne_empty (format : Format) (colored : Bool) (files : List ScannedFile)
    (withCounts : Bool) :
    report format colored files withCounts ≠ "" := by
  cases format with
  | pretty =>
    rw [report, Table.render, Table.rows, Table.heading]
    simp [Table.renderRow]
  | json =>
    rw [report, Document.print]
    simp

private theorem exists_failure_iff {workspace : Workspace} {arguments : ScanArguments} :
    (∃ check : ScanCheck, check.failure? workspace arguments ≠ none) ↔
      ScanCheck.all.findSome? (ScanCheck.failure? workspace arguments) ≠ none := by
  rw [Ne, List.findSome?_eq_none_iff, Classical.not_forall]
  refine exists_congr fun check =>
    ⟨fun failed passed => failed (passed check.mem_all), fun failed passed => ?_⟩
  exact failed fun _ => passed

private theorem runScan_of_error {workspace : Workspace} {arguments : ScanArguments}
    {error : CommandError} (made : ScanPlan.make workspace arguments = .error error)
    (colored : Bool) :
    runScan workspace colored arguments = error.outcome := by
  rw [runScan, made]

private theorem runScan_of_ok {workspace : Workspace} {arguments : ScanArguments} {plan : ScanPlan}
    (made : ScanPlan.make workspace arguments = .ok plan) (colored : Bool) :
    runScan workspace colored arguments =
      plan.run colored arguments.withCounts arguments.failEmpty := by
  rw [runScan, made]

namespace ScanPlan

/-- A file is reported with what the query leaves of the symbols that its text declares. -/
theorem scanned?_eq (query : Query) (file : FoundFile) :
    file.scanned? query = file.content.toOption.map fun bytes =>
      { path := String.intercalate "/" file.names
        language := file.language
        symbols := query.apply (scan file.language (String.ofList (Text.decodeLossy bytes))) } := by
  rw [FoundFile.scanned?]
  cases file.content.toOption with
  | none => rfl
  | some bytes => rfl

variable (plan : ScanPlan) (colored withCounts failEmpty : Bool)

private theorem run_exitCode :
    (plan.run colored withCounts failEmpty).exitCode =
      if failEmpty ∧ ((plan.files.filterMap (FoundFile.scanned? plan.query)).map
        (·.symbols.length)).sum = 0 then 1 else 0 := by
  simp [run, scanExitCode, totalSymbols_eq_length, allSymbols, List.length_flatMap]

private theorem run_exitCode_ne_two : (plan.run colored withCounts failEmpty).exitCode ≠ 2 := by
  rw [run_exitCode]
  split
  · decide
  · decide

variable {plan}

private theorem run_output (some : plan.files ≠ []) :
    (plan.run colored withCounts failEmpty).output =
      report plan.format colored (plan.files.filterMap (FoundFile.scanned? plan.query))
        withCounts :=
  if_neg fun none => some (List.isEmpty_iff.mp none)

private theorem run_output_eq_empty :
    (plan.run colored withCounts failEmpty).output = "" ↔ plan.files = [] := by
  by_cases none : plan.files = []
  · exact iff_of_true (if_pos (List.isEmpty_iff.mpr none)) none
  · rw [run_output _ _ _ none]
    exact iff_of_false (report_ne_empty _ _ _ _) none

private theorem run_messages :
    (plan.run colored withCounts failEmpty).messages =
      if plan.files = [] then "Warning: no files to scan\n" else "" := by
  simp only [run, List.isEmpty_iff]

private theorem mem_skipped_run {path : String} {cause : FileError} :
    (path, cause) ∈ (plan.run colored withCounts failEmpty).skipped ↔
      ∃ file ∈ plan.files, file.path = path ∧ file.content = .error cause := by
  rw [run, List.mem_filterMap]
  refine exists_congr fun file => and_congr_right fun _ => ?_
  cases read : file.content with
  | ok bytes => simp [FoundFile.failure?, read]
  | error found => simp [FoundFile.failure?, read]

end ScanPlan

/-- A scan ends with 2 exactly if one of its checks fails, and then it leaves behind nothing but the
message about the first of them. Otherwise it follows the plan that is asked for. The files of the
plan that can be read are reported with what the query leaves of the symbols that their texts
declare: the scan ends with 1 exactly if an empty report is a failure and no symbol is left, and it
writes the table or the document on those files, unless there are no files at all. The other files
of the plan are the ones that are skipped. The patterns of a configuration that is loaded never
fail. -/
theorem runScan_exit_codes {workspace : Workspace} (rooted : workspace.root.isDirectory = true)
    (colored : Bool) (arguments : ScanArguments) :
    let outcome := runScan workspace colored arguments
    (outcome.exitCode = 2 ↔ ∃ check : ScanCheck, check.failure? workspace arguments ≠ none) ∧
    (outcome.exitCode = 2 →
      ∃ error, ScanCheck.all.findSome? (ScanCheck.failure? workspace arguments) = some error ∧
        outcome =
          { exitCode := 2, output := "", messages := "Error: " ++ error.message ++ "\n" }) ∧
    (outcome.exitCode ≠ 2 →
      ∃ plan loaded only, ScanPlan.Follows plan workspace arguments loaded only ∧
        let reported : List ScannedFile := plan.files.filterMap fun file =>
          file.content.toOption.map fun bytes =>
            { path := String.intercalate "/" file.names
              language := file.language
              symbols := plan.query.apply
                (scan file.language (String.ofList (Text.decodeLossy bytes))) }
        (outcome.exitCode =
          if arguments.failEmpty ∧ (reported.map (·.symbols.length)).sum = 0 then 1 else 0) ∧
        (outcome.output = "" ↔ plan.files = []) ∧
        (plan.files ≠ [] → plan.format = .pretty →
          outcome.output = Table.render colored reported arguments.withCounts) ∧
        (plan.files ≠ [] → plan.format = .json →
          outcome.output = (Document.ofFiles reported arguments.withCounts).print) ∧
        (outcome.messages = if plan.files = [] then "Warning: no files to scan\n" else "") ∧
        ∀ path cause, (path, cause) ∈ outcome.skipped ↔
          ∃ file ∈ plan.files, file.path = path ∧ file.content = .error cause) ∧
    ∀ loaded, Config.load workspace arguments.config = .ok loaded →
      ∃ exclusions, loaded.config.exclusions = .ok exclusions := by
  intro outcome
  have made : Ends (ScanPlan.make workspace arguments) _ _ := ends_make rooted
  cases failing : ScanCheck.all.findSome? (ScanCheck.failure? workspace arguments) with
  | some error =>
    rw [failing] at made
    have ended : outcome = error.outcome := runScan_of_error made.eq_error colored
    have failed := exists_failure_iff.mpr (failing ▸ Option.some_ne_none error)
    have two : outcome.exitCode = 2 := congrArg Outcome.exitCode ended
    exact ⟨iff_of_true two failed, fun _ => ⟨error, rfl, ended⟩, fun other => absurd two other,
      fun _ => Config.load_exclusions⟩
  | none =>
    rw [failing] at made
    obtain ⟨plan, made, loaded, only, follows⟩ := made.eq_ok
    have ended : outcome = plan.run colored arguments.withCounts arguments.failEmpty :=
      runScan_of_ok made colored
    have passed := mt exists_failure_iff.mp (not_not_intro failing)
    have notTwo : outcome.exitCode ≠ 2 := ended ▸ plan.run_exitCode_ne_two _ _ _
    refine ⟨iff_of_false notTwo passed, fun two => absurd two notTwo, fun _ => ?_,
      fun _ => Config.load_exclusions⟩
    rw [ended]
    simp only [← ScanPlan.scanned?_eq]
    refine ⟨plan, loaded, only, follows, plan.run_exitCode _ _ _,
      ScanPlan.run_output_eq_empty _ _ _, fun some pretty => ?_, fun some json => ?_,
      ScanPlan.run_messages _ _ _, fun _ _ => ScanPlan.mem_skipped_run _ _ _⟩
    · rw [ScanPlan.run_output _ _ _ some, pretty]
      rfl
    · rw [ScanPlan.run_output _ _ _ some, json]
      rfl

/-- Of two wrong arguments the one that is checked first is reported. Without them the file is
reported with the constant that it declares. -/
theorem first_failure_and_report :
    let content : List UInt8 := Text.encode "const Limit = 10".toList
    let workspace : Workspace :=
      { root := .directory [("a.go", .file (.ok content))], current := [], shownCurrent := "/" }
    let wrong : ScanArguments := { path := "a.go", format := some "xml", sort := "size" }
    let right : ScanArguments := { path := "a.go", format := some "json" }
    let limit : Symbol :=
      { name := "Limit", kind := .constant, scope := "global", line := 1, language := .go }
    workspace.root.isDirectory = true ∧
      runScan workspace false wrong =
        { exitCode := 2
          messages := "Error: invalid format \"xml\", must be one of pretty, json\n" } ∧
      (runScan workspace false right).exitCode = 0 ∧
      (runScan workspace false right).output =
        (Document.ofFiles [⟨"a.go", .go, [limit]⟩] false).print := by
  intro content workspace wrong right limit
  have rooted : workspace.root.isDirectory = true := rfl
  obtain ⟨ends, fails, _⟩ := runScan_exit_codes rooted false wrong
  obtain ⟨error, first, outcome⟩ := fails (ends.mpr ⟨.sortKey, by decide⟩)
  have format : ScanCheck.all.findSome? (ScanCheck.failure? workspace wrong) =
      some (.format ⟨"xml"⟩) := by decide
  obtain rfl : error = .format ⟨"xml"⟩ := Option.some.inj (first.symm.trans format)
  obtain ⟨endsRight, _, passes, _⟩ := runScan_exit_codes rooted false right
  have passed : ¬∃ check : ScanCheck, check.failure? workspace right ≠ none := by
    rintro ⟨check, failed⟩
    cases check <;> exact failed (by decide)
  obtain ⟨plan, loaded, only, follows, exit, _, _, json, _, _⟩ := passes (mt endsRight.mp passed)
  have loading : Config.load workspace right.config = .ok {} := rfl
  cases Except.ok.inj (loading.symm.trans follows.loading)
  have located : workspace.locate right.path = .ok [("a.go", .file (.ok content))] := by
    have segments : FileTree.pathSegments "a.go" = ["a.go"] := by decide
    simp +decide [Workspace.locate, FileTree.locate, FileTree.enter, FileTree.Trail.target,
      segments, workspace, right]
  have files : plan.files = [⟨["a.go"], .go, .ok content⟩] := by
    refine follows.files.eq_singleton located ?_
    cases only with
    | none => decide
    | some language => cases follows.named
  have left : plan.query.apply (scan .go (String.ofList (Text.decodeLossy content))) = [limit] := by
    have declared : scan .go (String.ofList (Text.decodeLossy content)) = [limit] := by
      decide +kernel
    have search : plan.query.search = none := follows.query.search
    have kinds : plan.query.kinds = [] := follows.query.kinds
    simp [declared, Query.apply, Query.chooses, Query.choosesKind, Query.term?, sortSymbols,
      search, kinds]
  have isJson : plan.format = .json := Except.ok.inj (follows.format.symm.trans rfl)
  simp only [files, List.filterMap_cons, List.filterMap_nil, Except.toOption, Option.map_some,
    left] at exit json
  exact ⟨rooted, outcome.trans (by decide), exit, json (by simp) isJson⟩

end Symtab
