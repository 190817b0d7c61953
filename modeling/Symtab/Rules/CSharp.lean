import Symtab.Scan.Rule
import Symtab.Scan.Words

/-!
# Rules for C#

Opening braces usually stand on a line of their own, so a declaration opens its body without waiting
for one. A namespace opens a body and declares nothing.
-/

set_option autoImplicit false

namespace Symtab.Rules.CSharp

open Pattern

/-- The words that can stand before a declaration. -/
def modifiers : List String :=
  ["public", "private", "protected", "internal", "static", "virtual", "override", "abstract",
   "sealed", "async", "extern", "unsafe", "partial", "readonly", "const", "volatile"]

/-- The words that can stand before the type of a method. -/
def methodModifiers : List String :=
  ["public", "private", "protected", "internal", "static", "virtual", "override", "abstract",
   "sealed", "async", "extern", "unsafe", "new", "partial"]

/-- The words that can stand before the type of a property. -/
def propertyModifiers : List String :=
  ["public", "private", "protected", "internal", "static", "virtual", "override", "abstract",
   "sealed", "new", "required"]

/-- The words that can stand before the type of a variable. -/
def variableModifiers : List String :=
  ["public", "private", "protected", "internal", "static", "const", "readonly", "volatile", "new"]

/-- Any number of the given words, each followed by white space. -/
def leadingWords (written : List String) : Pattern :=
  repeated (anyText written ++ blanks1)

/-- A type: a dotted name with type arguments, array brackets and the mark of an optional value. -/
def typeName : Pattern :=
  many1 (wordOr ['.']) ++ optional (char '<' ++ many (noneOf ['=', ';', '(']) ++ char '>') ++
    repeated (text "[]") ++ optional (char '?')

/-- The form `using a.b;`, which may give the path another name. -/
def usings : Rule where
  pattern :=
    lineStart ++ optional (text "global" ++ blanks1) ++ text "using" ++ blanks1 ++
      optional (text "static" ++ blanks1) ++ optional (word ++ blanks ++ char '=' ++ blanks) ++
      capture .path (many1 (wordOr ['.'])) ++ blanks ++ char ';'
  effect? captures _ context := do
    let path ← captures.text? .path
    return { declarations :=
      (Declaration.of? context.scopes.current .imported (Text.lastSegment '.' path)).toList }

/-- The form `namespace a.b`. -/
def namespaces : Rule where
  pattern := lineStart ++ text "namespace" ++ blanks1 ++ capture .name (many1 (wordOr ['.']))
  effect? captures _ _ := do
    let name ← captures.text? .name
    return { opens := (Scope.of? name .module).toList }

/-- The form `class name`, and the other words that declare a type. -/
def classes : Rule where
  pattern :=
    wordEdge ++ anyText ["class", "interface", "struct", "enum", "record"] ++ blanks1 ++
      capture .name word
  effect? captures line context := do
    let name ← captures.text? .name
    return {
      declarations := (Declaration.of? context.scopes.current .classType name).toList
      opens := Scope.openedIf (opensScope line) name .classType }

/-- The form `type name(`. With a modifier in the place of the type this is a constructor. -/
def method : Rule where
  pattern :=
    lineStart ++ leadingWords methodModifiers ++ capture .type typeName ++ blanks1 ++
      capture .name word ++ blanks ++ optional (char '<' ++ many (noneOf ['>']) ++ char '>') ++
      blanks ++ char '('
  effect? captures line context := do
    let dataType ← captures.text? .type
    let name ← captures.text? .name
    if isStatementKeyword dataType || isStatementKeyword name then
      none
    else
      let declaration :=
        if isAmong modifiers dataType then Declaration.of? context.scopes.current .constructor name
        else Declaration.of? context.scopes.current .method name dataType
      return {
        declarations := declaration.toList
        opens := Scope.openedIf (opensScope line) name .function }

/-- The form `name(…)` in the body of the class of that name, with or without a call of another
constructor. -/
def bareConstructor : Rule where
  pattern :=
    lineStart ++ capture .name word ++ blanks ++ char '(' ++ many (noneOf [')']) ++ char ')' ++
      blanks ++
      optional (char ':' ++ blanks ++ anyText ["base", "this"] ++ blanks ++ char '(' ++
        many inLine ++ char ')') ++
      blanks ++ optional (char '{') ++ lineEnd
  effect? captures line context := do
    let name ← captures.text? .name
    if context.scopes.currentKind ≠ .classType || context.scopes.current ≠ String.ofList name then
      none
    else
      return {
        declarations := (Declaration.of? context.scopes.current .constructor name).toList
        opens := Scope.openedIf (opensScope line) name .function }

/-- Whether a property line leaves its accessors to be filled in. -/
def isAutomatic (line : List Char) : Bool :=
  Text.occursIn "get;".toList line || Text.occursIn "set;".toList line

/-- The forms `type name {` and `type name =>` in a class body. -/
def property : Rule where
  pattern :=
    lineStart ++ leadingWords propertyModifiers ++ capture .type typeName ++ blanks1 ++
      capture .name word ++ blanks ++ (char '{' <|> text "=>")
  effect? captures line context := do
    let dataType ← captures.text? .type
    let name ← captures.text? .name
    if context.scopes.currentKind ≠ .classType || isStatementKeyword dataType ||
        isAmong modifiers dataType then
      none
    else
      let description := if isAutomatic line then some "Auto-implemented property" else none
      return {
        declarations :=
          (Declaration.of? context.scopes.owner .property name dataType description).toList }

/-- The form `type name`, with a value, another name or a semicolon after it. -/
def plainVariables : Rule where
  pattern :=
    lineStart ++ leadingWords variableModifiers ++ capture .type typeName ++ blanks1 ++
      capture .name word ++ blanks ++ one (oneOf ['=', ';', ','])
  effect? captures line context := do
    let dataType ← captures.text? .type
    let name ← captures.text? .name
    let head := declarationHead line
    if isStatementKeyword dataType || isAmong modifiers dataType || head.contains '(' then
      none
    else
      let fixed := hasWord head "const" || (hasWord head "static" && hasWord head "readonly")
      let kind := if fixed then .constant else .variable
      return { declarations := (Declaration.of? context.scopes.current kind name dataType).toList }

/-- The rules for C#. -/
def table : RuleTable where
  cascade := [usings, namespaces, classes, method, bareConstructor, property, plainVariables]

end Symtab.Rules.CSharp
