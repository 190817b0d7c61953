import Symtab.Text.Basic
import Symtab.Text.Lower

/-!
# Kinds of symbols

What a declared identifier is. Each kind has an identifier, by which it is written in files and on
the command line, and a label for readers.
-/

set_option autoImplicit false

namespace Symtab

/-- What a declared identifier is. -/
inductive Kind where
  | variable
  | function
  | classType
  | method
  | parameter
  | constant
  | imported
  | builtin
  | property
  | constructor
  deriving DecidableEq, Repr

namespace Kind

/-- All kinds, in display order. -/
def all : List Kind :=
  [.variable, .function, .classType, .method, .parameter, .constant, .imported, .builtin, .property,
    .constructor]

/-- The identifier of a kind. -/
def id : Kind → String
  | .variable => "variable"
  | .function => "function"
  | .classType => "class"
  | .method => "method"
  | .parameter => "parameter"
  | .constant => "constant"
  | .imported => "import"
  | .builtin => "builtin"
  | .property => "property"
  | .constructor => "constructor"

/-- The name of a kind for readers. -/
def label : Kind → String
  | .variable => "Variable"
  | .function => "Function"
  | .classType => "Class"
  | .method => "Method"
  | .parameter => "Parameter"
  | .constant => "Constant"
  | .imported => "Import"
  | .builtin => "Built-in"
  | .property => "Property"
  | .constructor => "Constructor"

/-- The kind with exactly this identifier. -/
def ofId? (written : String) : Option Kind :=
  all.find? fun kind => kind.id == written

/-- The kind named by a text, which may be padded and in any letter case. -/
def parse? (written : String) : Option Kind :=
  ofId? (String.ofList (Text.lower (Text.trim written.toList)))

/-- The message about a text that names no kind. -/
def unknownMessage (written : String) : String :=
  "unknown symbol kind: " ++ written

theorem ofId?_id (kind : Kind) : ofId? kind.id = some kind := by
  cases kind <;> decide

end Kind

end Symtab
