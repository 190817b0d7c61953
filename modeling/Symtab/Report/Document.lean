import Symtab.Json.Print
import Symtab.Report.Format
import Symtab.Report.Record
import Symtab.Statistics

/-!
# The report as a JSON document

A document has the program's version, the number of files and of symbols, the files with their
symbols and, where asked for, the number of symbols of each kind.
-/

set_option autoImplicit false

namespace Symtab

/-- A report for programs. -/
structure Document where
  version : String
  filesScanned : Nat
  totalSymbols : Nat
  files : List ScannedFile
  /-- The number of symbols of each kind, where asked for. -/
  counts : Option (List KindCount)
  deriving DecidableEq, Repr

namespace Document

/-- The report on scanned files. The symbols are counted where they stand one after the other. -/
def ofFiles (files : List ScannedFile) (withCounts : Bool) : Document where
  version := Symtab.version
  filesScanned := files.length
  totalSymbols := (allSymbols files).length
  files := files.map fun file => { file with path := file.shownPath }
  counts := if withCounts then some (kindCounts (allSymbols files)) else none

/-- The JSON object of a file. -/
def fileToJson (file : ScannedFile) : Json :=
  .object
    [("path", .string file.path), ("language", .string file.language.id),
      ("symbols", .array (file.symbols.map Symbol.toJson))]

/-- The JSON object of the number of symbols of a kind. -/
def countToJson (entry : KindCount) : Json :=
  .object [("type", .string entry.kind.id), ("count", .ofNat entry.count)]

/-- The JSON object of a report. -/
def toJson (document : Document) : Json :=
  .object <|
    [("version", .string document.version), ("files_scanned", .ofNat document.filesScanned),
     ("total_symbols", .ofNat document.totalSymbols),
       ("files", .array (document.files.map fileToJson))] ++
    match document.counts with
    | some counts => [("stats", .array (counts.map countToJson))]
    | none => []

/-- The file that a JSON object stands for. -/
def fileOfJson? (value : Json) : Option ScannedFile := do
  return {
    path := ← (← value.field? "path").text?
    language := ← Language.ofExactId? (← (← value.field? "language").text?)
    symbols := ← (← (← value.field? "symbols").items?).mapM Symbol.ofJson? }

/-- The number of symbols of a kind that a JSON object stands for. -/
def countOfJson? (value : Json) : Option KindCount := do
  return {
    kind := ← Kind.ofId? (← (← value.field? "type").text?)
    count := ← (← value.field? "count").word64? }

/-- The numbers of symbols of each kind, which may be missing or null. -/
def countsOfJson? (value : Json) : Option (Option (List KindCount)) :=
  match value.given? "stats" with
  | none => some none
  | some stats => do return some (← (← stats.items?).mapM countOfJson?)

/-- The report that a JSON object stands for. -/
def ofJson? (value : Json) : Option Document := do
  return {
    version := ← (← value.field? "version").text?
    filesScanned := ← (← value.field? "files_scanned").word64?
    totalSymbols := ← (← value.field? "total_symbols").word64?
    files := ← (← (← value.field? "files").items?).mapM fileOfJson?
    counts := ← countsOfJson? value }

/-- The text of a report. -/
def print (document : Document) : String :=
  document.toJson.indented ++ "\n"

end Document

end Symtab
