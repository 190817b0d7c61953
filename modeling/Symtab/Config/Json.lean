import Symtab.Config.Basic
import Symtab.Json.Basic

/-!
# Configuration as JSON

The JSON object with the settings of a run. All fields may be missing, and only the format may be
null.
-/

set_option autoImplicit false

namespace Symtab.Config

/-- The value of a field, or the given one if the field is missing. -/
def fieldOr {α : Type} (value : Json) (name : String) (missing : α) (decode : Json → Option α) :
    Option α :=
  match value.field? name with
  | some found => decode found
  | none => some missing

/-- A list of texts. -/
def textsOfJson? (value : Json) : Option (List String) :=
  value.items?.bind (·.mapM Json.text?)

/-- A list of kinds, by their identifiers. -/
def kindsOfJson? (value : Json) : Option (List Kind) :=
  (textsOfJson? value).bind (·.mapM Kind.ofId?)

/-- An object from extensions to identifiers of languages. -/
def extensionsOfJson? (value : Json) : Option ExtensionTable := do
  (← value.fields?).foldlM (fun table (extension, language) => do
    return table.insert extension (← Language.ofExactId? (← language.text?))) .empty

/-- A format, by its identifier, or null. -/
def formatOfJson? : Json → Option (Option Format)
  | .null => some none
  | value => do return some (← Format.ofId? (← value.text?))

/-- The settings that a JSON object stands for. -/
def ofJson? (value : Json) : Option Config := do
  let _ ← value.fields?
  return {
    version := ← fieldOr value "version" "" Json.text?
    excludedPaths := ← fieldOr value "excluded_paths" [] textsOfJson?
    extensions := ← fieldOr value "extensions" .empty extensionsOfJson?
    kinds := ← fieldOr value "kinds" [] kindsOfJson?
    format := ← fieldOr value "format" none formatOfJson? }

/-- The JSON object of settings, with all fields. -/
def toJson (config : Config) : Json :=
  .object
    [("version", .string config.version), ("excluded_paths", .ofTexts config.excludedPaths),
     ("extensions", .object (config.extensions.entries.map fun (extension, language) =>
       (extension, .string language.id))),
     ("kinds", .ofTexts (config.kinds.map Kind.id)),
       ("format", .ofText? (config.format.map Format.id))]

end Symtab.Config
