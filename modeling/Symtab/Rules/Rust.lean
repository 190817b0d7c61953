import Symtab.Scan.Rule
import Symtab.Scan.Words

/-!
# Rules for Rust

Functions in the body of an implementation or a trait are methods. An implementation and a module
open a body and declare nothing. An import tree brings in one name for each of its leaves.
-/

set_option autoImplicit false

namespace Symtab.Rules.Rust

open Pattern

/-- The visibility that can stand before an item. -/
def visibility : Pattern :=
  optional (text "pub" ++ optional (blanks ++ char '(' ++ many (noneOf [')']) ++ char ')') ++
    blanks1)

/-- The start of an item, up to its first own word. -/
def itemStart : Pattern :=
  lineStart ++ visibility

/-- The path before the braces of an import tree, and the text inside them, up to the last closing
brace or, without one, up to the end. A tree without braces that ends in a star has the star inside;
any other tree without braces is all inside. -/
def splitTree (tree : List Char) : List Char × List Char :=
  match tree.dropWhile (· != '{') with
  | _ :: rest =>
    let path := Text.stripEnd (· == ':') (tree.takeWhile (· != '{'))
    let inside :=
      if rest.contains '}' then (rest.reverse.dropWhile (· != '}')).tail.reverse
      else if tree.contains '}' then []
      else rest
    (path, inside)
  | [] =>
    let path := Text.trim (Text.before " as ".toList tree)
    match Text.dropSuffix? "::*".toList path with
    | some module => (module, ['*'])
    | none => ([], path)

/-- An item of an import tree without the braces and blanks around it. -/
def bareItem (item : List Char) : List Char :=
  Text.trim (Text.stripEnd (· == '}') ((Text.trim item).dropWhile (· == '{')))

/-- The name that an item brings in: `self` and a star stand for the module of the given path. -/
def itemName (path item : List Char) : List Char :=
  let target := Text.trim (Text.afterLast '{' (Text.trim (Text.before " as ".toList item)))
  if target = "self".toList || target = ['*'] then Text.lastSegment ':' path
  else Text.lastSegment ':' target

/-- The names that an import tree brings in, from left to right. -/
def importedNames (tree : List Char) : List (List Char) :=
  let (path, items) := splitTree tree
  let bare := ((items.splitOn ',').map bareItem).filter fun item => !item.isEmpty
  (bare.map (itemName path)).filter fun name => !name.isEmpty

/-- The form `use tree;`. -/
def imports : Rule where
  pattern :=
    itemStart ++ text "use" ++ blanks1 ++ capture .path (many1 (noneOf [';'])) ++
      optional (char ';') ++ lineEnd
  effect? captures _ context := do
    let tree ← captures.text? .path
    return Effect.ofDeclarations
      ((importedNames (Text.trim tree)).filterMap
        (Declaration.of? context.scopes.current .imported))

/-- The type after the arrow of a signature, up to the body, the constraints or the semicolon. -/
def returnType? (line : List Char) : Option (List Char) := do
  let (_, rest) ← Text.cut? "->".toList line
  let upTo := (Text.before " where".toList rest).takeWhile fun c => c != '{' && c != ';'
  let type := Text.trim upTo
  if type.isEmpty then none else return type

/-- The form `fn name`. -/
def function : Rule where
  pattern :=
    itemStart ++
      repeated ((anyText ["default", "const", "async", "unsafe"] <|>
        (text "extern" ++ optional (blanks1 ++ char '"' ++ many (noneOf ['"']) ++ char '"'))) ++
        blanks1) ++
      text "fn" ++ blanks1 ++ capture .name word
  effect? captures line context := do
    let name ← captures.text? .name
    let kind := if context.scopes.currentKind = .implementation then .method else .function
    return {
      declarations := (Declaration.of? context.scopes.current kind name (returnType? line)).toList
      opens := Scope.openedIf (opensScope line) name .function }

/-- The form `impl type`, with or without a trait. -/
def implementation : Rule where
  pattern :=
    lineStart ++ optional (text "unsafe" ++ blanks1) ++ text "impl" ++
      optional (blanks ++ char '<' ++ few (noneOf ['{']) ++ char '>') ++ blanks1 ++
      optional (few1 (wordOr [':', '<', '>', ',', ' ']) ++ blanks1 ++ text "for" ++ blanks1) ++
      optional (char '&') ++ repeated (word ++ text "::") ++ capture .name word
  effect? captures line _ := do
    let target ← captures.text? .name
    return { opens := Scope.openedIf (!endsIn line '}' || opensBlock line) target .implementation }

/-- The form `trait name`. -/
def traits : Rule where
  pattern :=
    itemStart ++ optional (text "unsafe" ++ blanks1) ++ text "trait" ++ blanks1 ++
      capture .name word
  effect? captures line context := do
    let name ← captures.text? .name
    return {
      declarations :=
        (Declaration.of? context.scopes.current .classType name "trait".toList
          "Trait definition").toList
      opens := Scope.openedIf (opensScope line) name .implementation }

/-- The forms `struct name`, `enum name` and `union name`. -/
def structures : Rule where
  pattern :=
    itemStart ++ capture .keyword (anyText ["struct", "enum", "union"]) ++ blanks1 ++
      capture .name word
  effect? captures line context := do
    let keyword ← captures.text? .keyword
    let name ← captures.text? .name
    return {
      declarations := (Declaration.of? context.scopes.current .classType name keyword).toList
      opens :=
        Scope.openedIf (!endsIn line ';' && (opensBlock line || !line.contains '{')) name
          .classType }

/-- The form `type name = other;`. -/
def typeAlias : Rule where
  pattern :=
    itemStart ++ text "type" ++ blanks1 ++ capture .name word ++
      optional (char '<' ++ many (noneOf ['>']) ++ char '>') ++ blanks ++
      optional (char '=' ++ blanks ++ capture .type (many1 (noneOf [';']))) ++ char ';'
  effect? captures _ context := do
    let name ← captures.text? .name
    let dataType := (captures.text? .type).map Text.trim
    return Effect.ofDeclarations
      (Declaration.of? context.scopes.current .classType name dataType "Type alias").toList

/-- The form `mod name {`. -/
def modules : Rule where
  pattern := itemStart ++ text "mod" ++ blanks1 ++ capture .name word ++ blanks ++ char '{'
  effect? captures line _ := do
    let name ← captures.text? .name
    return { opens := Scope.openedIf (opensBlock line) name .module }

/-- The form `let name`, with or without a type. -/
def plainVariables : Rule where
  pattern :=
    lineStart ++ text "let" ++ blanks1 ++ optional (text "mut" ++ blanks1) ++ capture .name word ++
      blanks ++ optional (char ':' ++ blanks ++ capture .type (few1 (noneOf ['=', ';']))) ++
      blanks ++ one (oneOf ['=', ';'])
  effect? captures _ context := do
    let name ← captures.text? .name
    if name = ['_'] then
      return Effect.nothing
    else
      return {
        declarations :=
          (Declaration.of? context.scopes.current .variable name (captures.text? .type)).toList }

/-- Whether a piece of a tuple is a plain name. -/
def isPlainName (name : List Char) : Bool :=
  !name.isEmpty && name != ['_'] && name.all Text.isIdentifierChar

/-- The form `let (a, b)`. -/
def tupleVariables : Rule where
  pattern :=
    lineStart ++ text "let" ++ blanks1 ++ optional (text "mut" ++ blanks1) ++ char '(' ++
      capture .names (many (noneOf [')'])) ++ char ')'
  effect? captures _ context := do
    let names ← captures.text? .names
    let plain :=
      ((names.splitOn ',').map fun name =>
        Text.trim (Text.dropLeading "mut ".toList (Text.trim name))).filter
        isPlainName
    return { declarations := plain.filterMap (Declaration.of? context.scopes.current .variable) }

/-- The form `static name: type =`, a variable if it is mutable. -/
def statics : Rule where
  pattern :=
    itemStart ++ text "static" ++ blanks1 ++ optional (capture .modifier (text "mut" ++ blanks1)) ++
      capture .name word ++ blanks ++ char ':' ++ blanks ++ capture .type (few1 (noneOf ['='])) ++
      blanks ++ char '='
  effect? captures _ context := do
    let name ← captures.text? .name
    let kind := if captures.has .modifier then .variable else .constant
    return Effect.ofDeclarations
      (Declaration.of? context.scopes.current kind name (captures.text? .type)).toList

/-- The form `const name: type =`. -/
def constants : Rule where
  pattern :=
    itemStart ++ text "const" ++ blanks1 ++ capture .name word ++ blanks ++ char ':' ++ blanks ++
      capture .type (few1 (noneOf ['='])) ++ blanks ++ char '='
  effect? captures _ context := do
    let name ← captures.text? .name
    return Effect.ofDeclarations
      (Declaration.of? context.scopes.current .constant name (captures.text? .type)).toList

/-- The form `name: type` in the body of a structure. -/
def field : Rule where
  pattern :=
    itemStart ++ capture .name word ++ blanks ++ char ':' ++ blanks ++
      capture .type (few1 (noneOf [',', '{', '}'])) ++ blanks ++ optional (char ',') ++ lineEnd
  effect? captures _ context := do
    let name ← captures.text? .name
    let dataType ← captures.text? .type
    if context.scopes.currentKind ≠ .classType then
      none
    else
      return Effect.ofDeclarations
        (Declaration.of? context.scopes.owner .property name dataType).toList

/-- The rules for Rust. -/
def table : RuleTable where
  cascade :=
    [imports, function, implementation, traits, structures, typeAlias, modules, plainVariables,
     tupleVariables, statics, constants, field]

end Symtab.Rules.Rust
