import Symtab.Scan.Rule
import Symtab.Scan.Words

/-!
# Rules for Java

A declaration is read as modifiers, a type and a name. A constructor has no type, so the last of its
modifiers is read in the place of one, and that is how constructors with modifiers are told from
methods.
-/

set_option autoImplicit false

namespace Symtab.Rules.Java

open Pattern

/-- The words that can stand before a declaration. -/
def modifiers : List String :=
  ["public", "private", "protected", "static", "final", "abstract", "synchronized", "native",
   "default", "strictfp", "transient", "volatile"]

/-- The modifiers that a method or constructor can have. -/
def methodModifiers : List String :=
  ["public", "private", "protected", "static", "final", "abstract", "synchronized", "native",
   "default", "strictfp"]

/-- The modifiers that a variable can have. -/
def variableModifiers : List String :=
  ["public", "private", "protected", "static", "final", "transient", "volatile"]

/-- Any number of the given words, each followed by white space. -/
def leadingWords (written : List String) : Pattern :=
  repeated (anyText written ++ blanks1)

/-- Array brackets, any number of them. -/
def brackets : Pattern :=
  repeated (text "[]")

/-- A type: a dotted name with type arguments and array brackets. -/
def typeName : Pattern :=
  many1 (wordOr ['.']) ++ optional (char '<' ++ many (noneOf ['=', ';', '(']) ++ char '>') ++
    brackets

/-- The form `package a.b;`. -/
def package : Rule where
  pattern := lineStart ++ text "package" ++ blanks1 ++ many1 (wordOr ['.']) ++ blanks ++ char ';'
  effect? _ _ _ := some Effect.nothing

/-- The form `import a.b.C;`. An import of all members names none of them. -/
def imports : Rule where
  pattern :=
    lineStart ++ text "import" ++ blanks1 ++ optional (text "static" ++ blanks1) ++
      capture .path (few1 (wordOr ['.'])) ++ optional (capture .wildcard (text ".*")) ++ blanks ++
      char ';'
  effect? captures _ context := do
    let path ← captures.text? .path
    if captures.has .wildcard then
      return Effect.nothing
    else
      return {
        declarations :=
          (Declaration.of? context.scopes.current .imported (Text.lastSegment '.' path)).toList }

/-- The form `class name`, and the other words that declare a type. -/
def classes : Rule where
  pattern :=
    wordEdge ++ anyText ["class", "interface", "enum", "record"] ++ blanks1 ++ capture .name word
  effect? captures line context := do
    let name ← captures.text? .name
    return {
      declarations := (Declaration.of? context.scopes.current .classType name).toList
      opens := Scope.openedIf (opensScope line) name .classType }

/-- The form `type name(`. With a modifier in the place of the type this is a constructor. -/
def method : Rule where
  pattern :=
    lineStart ++ leadingWords methodModifiers ++
      optional (char '<' ++ many1 (noneOf ['>']) ++ char '>' ++ blanks1) ++
      capture .type typeName ++ blanks1 ++ capture .name word ++ blanks ++ char '('
  effect? captures line context := do
    let dataType ← captures.text? .type
    let name ← captures.text? .name
    if isStatementKeyword dataType || isStatementKeyword name then
      none
    else
      let declaration :=
        if isAmong modifiers dataType then Declaration.of? context.scopes.current .constructor name
        else Declaration.of? context.scopes.current .method name dataType
      return {
        declarations := declaration.toList
        opens := Scope.openedIf (opensScope line) name .function }

/-- The form `name(…)` in the body of the class of that name. -/
def bareConstructor : Rule where
  pattern :=
    lineStart ++ capture .name word ++ blanks ++ char '(' ++ many (noneOf [')']) ++ char ')' ++
      blanks ++
      optional (text "throws" ++ blanks1 ++ many1 fun c => wordOr ['.', ','] c || Text.isBlank c) ++
      optional (char '{') ++ lineEnd
  effect? captures line context := do
    let name ← captures.text? .name
    if context.scopes.currentKind ≠ .classType || context.scopes.current ≠ String.ofList name then
      none
    else
      return {
        declarations := (Declaration.of? context.scopes.current .constructor name).toList
        opens := Scope.openedIf (opensScope line) name .function }

/-- The form `type name`, with a value, another name or a semicolon after it. -/
def plainVariables : Rule where
  pattern :=
    lineStart ++ leadingWords variableModifiers ++ capture .type typeName ++ blanks1 ++
      capture .name word ++ blanks ++ brackets ++ blanks ++ one (oneOf ['=', ';', ','])
  effect? captures line context := do
    let dataType ← captures.text? .type
    let name ← captures.text? .name
    let head := declarationHead line
    if isStatementKeyword dataType || isAmong modifiers dataType || head.contains '(' then
      none
    else
      let kind := if hasWord head "final" then .constant else .variable
      return { declarations := (Declaration.of? context.scopes.current kind name dataType).toList }

/-- The rules for Java. -/
def table : RuleTable where
  cascade := [package, imports, classes, method, bareConstructor, plainVariables]

end Symtab.Rules.Java
