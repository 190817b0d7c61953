import Symtab.Config.Basic
import Symtab.Yaml.Node

/-!
# Configuration files

The settings that a YAML document stands for. The document is a mapping; its known keys are given at
most once, and unknown keys are passed over. Where a text is wanted every scalar counts as its text,
and where a collection is wanted an empty value counts as an empty collection.
-/

set_option autoImplicit false

namespace Symtab.Config

open Yaml (Node)

/-- The values with an anchor in a document. -/
abbrev AnchorTable := List (Nat × Node)

/-- The value that a node stands for: itself, or the last value with the number of a reference. -/
def AnchorTable.resolve (table : AnchorTable) : Node → Node
  | .alias number => ((table.reverse.find? fun entry => entry.1 == number).map (·.2)).getD .empty
  | node => node

/-- The text of a scalar. -/
def textOfNode? (table : AnchorTable) (node : Node) : Option String :=
  match table.resolve node with
  | .scalar _ text _ => some text
  | _ => none

/-- The items of a sequence; an empty value has none. -/
def itemsOfNode? (table : AnchorTable) (node : Node) : Option (List Node) :=
  match table.resolve node with
  | .sequence _ items => some items
  | .scalar _ "" true => some []
  | _ => none

/-- The pairs of a mapping; an empty value has none. -/
def pairsOfNode? (table : AnchorTable) (node : Node) : Option (List (Node × Node)) :=
  match table.resolve node with
  | .mapping _ pairs => some pairs
  | .scalar _ "" true => some []
  | _ => none

/-- Whether a text is a spelling of null. -/
def isNullText (text : String) : Bool :=
  ["~", "null", "Null", "NULL"].contains text

/-- The identifier in a local tag, which is one that starts with an exclamation mark. -/
def localTag? (tag : Option String) : Option String :=
  match tag.map String.toList with
  | some ['!'] => some "!"
  | some ('!' :: name) => some (String.ofList name)
  | _ => none

/-- The identifier that a scalar stands for: its text or, if it has a local tag and is otherwise
null, the tag. -/
def idOfNode? (table : AnchorTable) (node : Node) : Option String :=
  match table.resolve node with
  | .scalar properties text plain =>
    match localTag? properties.tag with
    | some id => if plain && (text.isEmpty || isNullText text) then some id else none
    | none => some text
  | _ => none

/-- The tag of null. -/
def nullTag : String := "tag:yaml.org,2002:null"

/-- Whether a value is null. A plain scalar is null if it is empty or a spelling of null, unless it
has a tag; with the tag of null it has to be a spelling of null. -/
def isNull? : Node → Option Bool
  | .scalar properties text true =>
    match properties.tag with
    | none => some (text.isEmpty || isNullText text)
    | some tag =>
      if tag = nullTag then if isNullText text then some true else none
      else some false
  | _ => some false

/-- A format, by its identifier, or null. -/
def formatOfNode? (table : AnchorTable) (node : Node) : Option (Option Format) := do
  if ← isNull? (table.resolve node) then
    return none
  else
    return some (← Format.ofId? (← idOfNode? table node))

/-- A list of kinds, by their identifiers. -/
def kindsOfNode? (table : AnchorTable) (node : Node) : Option (List Kind) := do
  (← itemsOfNode? table node).mapM fun item => do Kind.ofId? (← idOfNode? table item)

/-- A list of texts. -/
def textsOfNode? (table : AnchorTable) (node : Node) : Option (List String) := do
  (← itemsOfNode? table node).mapM (textOfNode? table)

/-- A mapping from extensions to identifiers of languages; of several pairs with one extension the
last counts. -/
def extensionsOfNode? (table : AnchorTable) (node : Node) : Option ExtensionTable := do
  (← pairsOfNode? table node).foldlM (fun extensions (key, value) => do
    return extensions.insert (← textOfNode? table key)
      (← Language.ofExactId? (← idOfNode? table value))) .empty

/-- The names of the settings. -/
def settingNames : List String :=
  ["version", "excluded_paths", "extensions", "kinds", "format"]

/-- The settings with one of them replaced by a value; an unknown name changes nothing. -/
def set? (table : AnchorTable) (config : Config) (name : String) (value : Node) : Option Config :=
  match name with
  | "version" => do return { config with version := ← textOfNode? table value }
  | "excluded_paths" => do return { config with excludedPaths := ← textsOfNode? table value }
  | "extensions" => do return { config with extensions := ← extensionsOfNode? table value }
  | "kinds" => do return { config with kinds := ← kindsOfNode? table value }
  | "format" => do return { config with format := ← formatOfNode? table value }
  | _ => some config

/-- The settings after the given pairs, when the settings named in `given` have been read. -/
def setAll? (table : AnchorTable) (config : Config) (given : List String) :
    List (Node × Node) → Option Config
  | [] => some config
  | (key, value) :: rest => do
    let name ← textOfNode? table key
    if settingNames.contains name && given.contains name then
      none
    else
      setAll? table (← set? table config name value) (name :: given) rest

/-- The settings that a document stands for. -/
def ofNode? (root : Node) : Option Config := do
  let table := root.anchored
  setAll? table {} [] (← pairsOfNode? table root)

/-- The settings that the text of a configuration file stands for. -/
def ofYaml? (text : String) : Option Config :=
  (Node.parse? text).bind ofNode?

end Symtab.Config
