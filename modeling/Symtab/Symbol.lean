import Symtab.Kind
import Symtab.Language.Basic

/-!
# Symbols

A symbol is a declared identifier with what is known about it. Identifiers are cleaned of quotes and
white space before they are recorded, and a text of which nothing is left is no identifier.
-/

set_option autoImplicit false

namespace Symtab

/-- A declared identifier, with what it is and where it stands. -/
structure Symbol where
  /-- The identifier. -/
  name : String
  /-- What the identifier is. -/
  kind : Kind
  /-- The name of the body that the declaration belongs to. -/
  scope : String
  /-- The number of the declaring line, counted from one. -/
  line : Nat
  /-- The declared type, where one was read. -/
  dataType : Option String := none
  /-- The language of the declaration. -/
  language : Language
  /-- What is particular about the declaration. -/
  description : Option String := none
  deriving DecidableEq, Repr

namespace Symbol

/-- The description of a symbol, or what can be said about its kind. -/
def describe (symbol : Symbol) : String :=
  let dataType := symbol.dataType.getD "unknown"
  match symbol.description with
  | some description => description
  | none =>
    match symbol.kind with
    | .classType => "Class definition"
    | .constructor => "Constructor method"
    | .method => "Instance method"
    | .function => "Function definition"
    | .variable => "Variable of type " ++ dataType
    | .constant => "Constant value"
    | .imported => "Imported module or member"
    | .builtin => "Built-in language feature"
    | .property => "Property of type " ++ dataType
    | .parameter => "Parameter of type " ++ dataType

end Symbol

/-- Whether a character is a quote that may surround a name. -/
def isQuote (c : Char) : Bool :=
  c == '"' || c == '\'' || c == '\x60'

/-- The identifier in a text: white space is stripped, then quotes, then the white space inside
them. A text of which nothing is left holds no identifier. -/
def cleanName? (raw : List Char) : Option String :=
  match Text.trim (Text.strip isQuote (Text.trim raw)) with
  | [] => none
  | name => some (String.ofList name)

end Symtab
