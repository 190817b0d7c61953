import Symtab.Symbol
import Symtab.Text.Cut

/-!
# Queries

Choosing symbols by kind and by a search term, and ordering them by one column. Ordering is stable:
symbols that agree in the column stay in the order in which they were found.
-/

set_option autoImplicit false

namespace Symtab

/-- A column that symbols can be ordered by. -/
inductive SortKey where
  | line
  | name
  | kind
  | scope
  | dataType
  deriving DecidableEq, Repr

/-- No column goes by the given name. -/
structure UnknownSortKey where
  name : String
  deriving DecidableEq, Repr

/-- The message about a name that no column goes by. -/
def UnknownSortKey.message (error : UnknownSortKey) : String :=
  "invalid sort key " ++ Text.quoted error.name ++
    ", must be one of line, name, type, scope, data-type"

namespace SortKey

/-- The names of the columns. -/
def names : List (String × SortKey) :=
  [("line", .line), ("name", .name), ("type", .kind), ("kind", .kind), ("scope", .scope),
   ("data-type", .dataType), ("datatype", .dataType), ("data_type", .dataType)]

/-- The column named by a text, which may be padded and in any letter case. -/
def parse (written : String) : Except UnknownSortKey SortKey :=
  let name := String.ofList (Text.lower (Text.trim written.toList))
  match names.lookup name with
  | some key => .ok key
  | none => .error ⟨name⟩

end SortKey

/-- The direction of an ordering. -/
inductive SortOrder where
  | ascending
  | descending
  deriving DecidableEq, Repr

/-- A comparison seen in a direction. -/
def SortOrder.orient (order : SortOrder) (comparison : Ordering) : Ordering :=
  match order with
  | .ascending => comparison
  | .descending => comparison.swap

/-- Compares two symbols by a column. A symbol without a data type comes after one with a data type
in either direction. -/
def Symbol.compareBy (key : SortKey) (order : SortOrder) (a b : Symbol) : Ordering :=
  match key with
  | .line => order.orient (compare a.line b.line)
  | .name => order.orient (compare a.name b.name)
  | .kind => order.orient (compare a.kind.id b.kind.id)
  | .scope => order.orient (compare a.scope b.scope)
  | .dataType =>
    match a.dataType, b.dataType with
    | some x, some y => order.orient (compare x y)
    | some _, none => .lt
    | none, some _ => .gt
    | none, none => .eq

/-- The symbols in the order of a column; equal ones keep their order. -/
def sortSymbols (key : SortKey) (order : SortOrder) (symbols : List Symbol) : List Symbol :=
  symbols.mergeSort fun a b => a.compareBy key order b != .gt

/-- Whether a term occurs in the name or the scope of a symbol, letter case aside. -/
def Symbol.mentions (symbol : Symbol) (term : List Char) : Bool :=
  let term := Text.lower term
  Text.occursIn term (Text.lower symbol.name.toList) ||
    Text.occursIn term (Text.lower symbol.scope.toList)

/-- What to choose and how to order it. -/
structure Query where
  /-- The term to look for; a blank term is no term. -/
  search : Option String := none
  /-- The kinds to choose; all kinds if there are none. -/
  kinds : List Kind := []
  /-- The column to order by. -/
  sort : SortKey := .line
  /-- The direction of the ordering. -/
  order : SortOrder := .ascending
  deriving DecidableEq, Repr

namespace Query

/-- The term to look for without white space at its ends, unless nothing is left of it. -/
def term? (query : Query) : Option (List Char) :=
  match query.search.map fun search => Text.trim search.toList with
  | none | some [] => none
  | some term => some term

/-- Whether a symbol is of a chosen kind. -/
def choosesKind (query : Query) (kind : Kind) : Bool :=
  query.kinds.isEmpty || query.kinds.contains kind

/-- Whether a symbol is chosen. -/
def chooses (query : Query) (symbol : Symbol) : Bool :=
  query.choosesKind symbol.kind &&
    match query.term? with
    | none => true
    | some term => symbol.mentions term

/-- The chosen symbols in order. -/
def apply (query : Query) (symbols : List Symbol) : List Symbol :=
  sortSymbols query.sort query.order (symbols.filter query.chooses)

end Query

end Symtab
