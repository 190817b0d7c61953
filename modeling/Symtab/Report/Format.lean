import Symtab.Text.Basic
import Symtab.Text.Lower
import Symtab.Text.Quoted

/-!
# Report formats

A report is written as a table for readers or as a JSON document for programs. Either form carries
the version of the program.
-/

set_option autoImplicit false

namespace Symtab

/-- The name of the program. -/
def programName : String := "symscan"

/-- The version of the program, which reports carry. -/
def version : String := "0.1.0"

/-- The form of a report. -/
inductive Format where
  | pretty
  | json
  deriving DecidableEq, Repr

/-- No format goes by the given name. -/
structure UnknownFormat where
  name : String
  deriving DecidableEq, Repr

/-- The message about a name that no format goes by. -/
def UnknownFormat.message (error : UnknownFormat) : String :=
  "invalid format " ++ Text.quoted error.name ++ ", must be one of pretty, json"

namespace Format

/-- All formats. -/
def all : List Format := [.pretty, .json]

/-- The identifier of a format. -/
def id : Format → String
  | .pretty => "pretty"
  | .json => "json"

/-- The format with exactly this identifier. -/
def ofId? (written : String) : Option Format :=
  all.find? fun format => format.id == written

/-- The format named by a text, which may be padded and in any letter case. -/
def parse (written : String) : Except UnknownFormat Format :=
  let name := String.ofList (Text.lower (Text.trim written.toList))
  match ofId? name with
  | some format => .ok format
  | none => .error ⟨name⟩

end Format

end Symtab
