import Symtab.Report.Format
import Symtab.Report.Style
import Symtab.Statistics

/-!
# The report as a table

A heading, a section for each file with a row for each symbol, a summary by kind where asked for,
and a closing line with the totals.
-/

set_option autoImplicit false

namespace Symtab

/-- A line of a table: texts between cells. -/
structure Row where
  cells : List Cell

namespace Table

/-- A text shown in a style. -/
def styled (text : String) (style : Style) : Cell :=
  { text, style }

/-- A text shown as it is. -/
def plain (text : String) : Cell :=
  { text }

/-- The six columns of a section, from line number to description. -/
def columns (line kind name scope dataType description : Cell) : Row where
  cells :=
    [plain "    ", { line with alignment := .right, width := 5 }, plain "  ",
     { kind with width := 12 }, plain " ", { name with width := 28 }, plain " ",
     { scope with width := 20 }, plain " ", { dataType with width := 16 }, plain " ",
     description]

/-- The row of column titles. -/
def titles : Row :=
  let title (text : String) : Cell := styled text { bold := true }
  columns (title "LINE") (title "TYPE") (title "NAME") (title "SCOPE") (title "DATA TYPE")
    (title "DESCRIPTION")

/-- The row of a symbol. -/
def symbolRow (symbol : Symbol) : Row :=
  columns (styled (Nat.repr symbol.line) { dimmed := true })
    (styled symbol.kind.id { color := some symbol.kind.color })
    (plain symbol.name) (plain symbol.scope) (plain (symbol.dataType.getD "-"))
    (styled symbol.describe { dimmed := true })

/-- The empty row. -/
def emptyRow : Row := ⟨[]⟩

/-- The heading of a report. -/
def heading : List Row :=
  [emptyRow, ⟨[plain "  ", styled programName { bold := true, color := some .cyan },
    plain (" v" ++ version)]⟩, emptyRow]

/-- The section of a file. -/
def fileSection (file : ScannedFile) : List Row :=
  ⟨[plain "  ", styled file.shownPath { color := some .blue }, plain " ",
    styled ("(" ++ file.language.displayName ++ ")") { dimmed := true }]⟩ ::
  (if file.symbols.isEmpty then
    [⟨[plain "    ", styled "no symbols found" { dimmed := true }]⟩]
  else
    titles :: file.symbols.map symbolRow) ++
  [emptyRow]

/-- The row of the number of symbols of a kind. -/
def countRow (entry : KindCount) : Row where
  cells :=
    [plain "    ",
     { text := entry.kind.label, style := { color := some entry.kind.color }, width := 14 },
     plain " ", { text := Nat.repr entry.count, alignment := .right, width := 5 }]

/-- The number of symbols of each kind. -/
def summary (counts : List KindCount) : List Row :=
  ⟨[plain "  ", styled "Summary:" { bold := true }]⟩ :: counts.map countRow ++ [emptyRow]

/-- The closing line with the totals. -/
def footer (files : List ScannedFile) : Row where
  cells :=
    let plural := if files.length = 1 then "" else "s"
    [plain "  ",
     styled (Nat.repr (totalSymbols files) ++ " symbols in " ++ Nat.repr files.length ++
       " file" ++ plural) { dimmed := true }]

/-- The rows of a report. The summary is left out where there are no symbols. -/
def rows (files : List ScannedFile) (withCounts : Bool) : List Row :=
  heading ++ files.flatMap fileSection ++
  (if withCounts && totalSymbols files > 0 then summary (kindCounts (allSymbols files)) else []) ++
  [footer files]

/-- The characters of a row with its line end. -/
def renderRow (colored : Bool) (row : Row) : List Char :=
  row.cells.flatMap (Cell.render colored) ++ ['\n']

/-- The text of a report on a terminal with colours or without. -/
def render (colored : Bool) (files : List ScannedFile) (withCounts : Bool) : String :=
  String.ofList ((rows files withCounts).flatMap (renderRow colored))

end Table

end Symtab
