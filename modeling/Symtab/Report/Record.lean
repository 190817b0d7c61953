import Symtab.Json.Basic
import Symtab.Symbol

/-!
# Symbol records

The JSON object that stands for a symbol. The data type and the description are left out where there
is none; when a record is read they may also be null.
-/

set_option autoImplicit false

namespace Symtab

/-- A field that is left out where there is no text for it. -/
def Json.optionalField (name : String) (text : Option String) : List (String × Json) :=
  match text with
  | some text => [(name, .string text)]
  | none => []

/-- A field that may be missing or null, and otherwise must be a text. -/
def Json.optionalText (name : String) (value : Json) : Option (Option String) :=
  match value.given? name with
  | none => some none
  | some (.string text) => some (some text)
  | some _ => none

namespace Symbol

/-- The record of a symbol. -/
def toJson (symbol : Symbol) : Json :=
  .object <|
    [("name", .string symbol.name), ("type", .string symbol.kind.id),
      ("scope", .string symbol.scope),
     ("line", .ofNat symbol.line)] ++
    Json.optionalField "dataType" symbol.dataType ++
    [("language", .string symbol.language.id)] ++
    Json.optionalField "description" symbol.description

/-- The symbol that a record stands for. -/
def ofJson? (record : Json) : Option Symbol := do
  return {
    name := ← (← record.field? "name").text?
    kind := ← Kind.ofId? (← (← record.field? "type").text?)
    scope := ← (← record.field? "scope").text?
    line := ← (← record.field? "line").word64?
    dataType := ← record.optionalText "dataType"
    language := ← Language.ofExactId? (← (← record.field? "language").text?)
    description := ← record.optionalText "description" }

end Symbol

end Symtab
