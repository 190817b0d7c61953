import Symtab.Scan.Rule
import Symtab.Scan.Words

/-!
# Rules for Go

Imports, constants and variables can be declared in a parenthesised group over several lines. The
group in force is part of the scan's state; it begins with a line such as `const (` and ends with a
line that starts with a closing parenthesis.
-/

set_option autoImplicit false

namespace Symtab.Rules.Go

open Pattern

/-- The words that are never declared. -/
def keywords : List String :=
  ["break", "case", "chan", "const", "continue", "default", "defer", "else", "fallthrough",
   "for", "func", "go", "goto", "if", "import", "interface", "map", "package", "range", "return",
   "select", "struct", "switch", "type", "var"]

/-- Whether a text is a keyword. -/
def isKeyword (text : List Char) : Bool :=
  isAmong keywords text

/-- The identifiers of a list with commas, without the blank one. -/
def identifiers (list : List Char) : List (List Char) :=
  (commaSeparated list).filter fun name => !name.isEmpty && name != ['_']

/-- Names with commas between them. -/
def nameList : Pattern :=
  word ++ repeated (blanks ++ char ',' ++ blanks ++ word)

/-- A type written without blanks. -/
def typeName : Pattern :=
  many1 (wordOr ['.', '*', '[', ']'])

/-- Type parameters or an index in brackets. -/
def bracketed : Pattern :=
  optional (char '[' ++ many (noneOf [']']) ++ char ']')

/-- A type after some blanks, if there is one. -/
def optionalType : Pattern :=
  optional (blanks1 ++ capture .type typeName)

/-- A value, or nothing more on the line. -/
def valueOrEnd : Pattern :=
  char '=' <|> lineEnd

/-- A path in double quotes, which may have another name before it. -/
def importedPath : Pattern :=
  optional (capture .binding (many1 (wordOr ['.'])) ++ blanks1) ++ char '"' ++
    capture .path (many1 (noneOf ['"'])) ++ char '"'

/-- A closing parenthesis, which ends a group. -/
def groupEnd : Rule where
  pattern := lineStart ++ char ')'
  effect? _ _ context :=
    if context.group.isNone then none else some { group := .enter none }

/-- The import of a path, named by the name before it or by the last segment of the path. -/
def importEffect (binding : Option (List Char)) (path : List Char) : Effect :=
  let name :=
    (binding.filter fun name => name != ['_'] && name != ['.']).getD (Text.lastSegment '/' path)
  { declarations := (Declaration.of? globalScope .imported name "package".toList).toList }

/-- A path in a group of imports. -/
def groupImport : Rule where
  pattern := lineStart ++ importedPath
  effect? captures _ context := do
    if context.group ≠ some .imports then
      none
    else
      let path ← captures.text? .path
      return importEffect (captures.text? .binding) path

/-- What a group declares, where it declares names. -/
def groupKind? : Option DeclarationGroup → Option Kind
  | some .constants => some .constant
  | some .plainVariables => some .variable
  | _ => none

/-- Names in a group of constants or variables. -/
def groupSpec : Rule where
  pattern := lineStart ++ capture .names nameList ++ optionalType ++ blanks ++ valueOrEnd
  effect? captures _ context := do
    let kind ← groupKind? context.group
    let names ← captures.text? .names
    return {
      declarations :=
        (identifiers names).filterMap fun name =>
          Declaration.of? context.scopes.current kind name (captures.text? .type) }

/-- The form `package name`. -/
def package : Rule where
  pattern := lineStart ++ text "package" ++ blanks1 ++ word
  effect? _ _ _ := some Effect.nothing

/-- The group that a keyword begins. -/
def groupOf? (keyword : List Char) : Option DeclarationGroup :=
  if keyword = "import".toList then some .imports
  else if keyword = "const".toList then some .constants
  else if keyword = "var".toList then some .plainVariables
  else none

/-- The forms `import (`, `const (` and `var (`, with nothing after them. -/
def groupStart : Rule where
  pattern :=
    lineStart ++ capture .keyword (anyText ["import", "const", "var"]) ++ blanks ++ char '(' ++
      lineEnd
  effect? captures _ _ := do
    let keyword ← captures.text? .keyword
    let group ← groupOf? keyword
    return { group := .enter (some group) }

/-- The form `import "path"`. -/
def imports : Rule where
  pattern := lineStart ++ text "import" ++ blanks1 ++ importedPath
  effect? captures _ _ := do
    let path ← captures.text? .path
    return importEffect (captures.text? .binding) path

/-- The form `func name(`, with a receiver for a method. -/
def function : Rule where
  pattern :=
    lineStart ++ text "func" ++ blanks1 ++
      optional (char '(' ++ blanks ++ optional (word ++ blanks1) ++ optional (char '*') ++
        capture .owner word ++ bracketed ++ blanks ++ char ')' ++ blanks) ++
      capture .name word ++ blanks ++ bracketed ++ blanks ++ char '('
  effect? captures line context := do
    let name ← captures.text? .name
    let declaration :=
      match captures.text? .owner with
      | some receiver => Declaration.of? (String.ofList receiver) .method name
      | none => Declaration.of? context.scopes.current .function name
    return {
      declarations := declaration.toList
      opens := Scope.openedIf (opensBlock line) name .function }

/-- What is said about a type by what it is made of. -/
def typeDescription (underlying : List Char) : String :=
  if underlying = "struct".toList then "Struct type"
  else if underlying = "interface".toList then "Interface type"
  else "Named type"

/-- The form `type name underlying`. -/
def types : Rule where
  pattern :=
    lineStart ++ text "type" ++ blanks1 ++ capture .name word ++ bracketed ++ blanks1 ++
      optional (char '=' ++ blanks) ++ capture .type typeName
  effect? captures line context := do
    let name ← captures.text? .name
    let underlying ← captures.text? .type
    return {
      declarations :=
        (Declaration.of? context.scopes.current .classType name underlying
          (typeDescription underlying)).toList
      opens := Scope.openedIf (opensBlock line) name .classType }

/-- The form `const name =`. -/
def constants : Rule where
  pattern :=
    lineStart ++ text "const" ++ blanks1 ++ capture .name word ++ optionalType ++ blanks ++ char '='
  effect? captures _ context := do
    let name ← captures.text? .name
    return Effect.ofDeclarations
      (Declaration.of? context.scopes.current .constant name (captures.text? .type)).toList

/-- The form `var a, b type`, with or without a value. -/
def plainVariables : Rule where
  pattern :=
    lineStart ++ text "var" ++ blanks1 ++ capture .names nameList ++ optionalType ++ blanks ++
      valueOrEnd
  effect? captures _ context := do
    let names ← captures.text? .names
    return {
      declarations :=
        (identifiers names).filterMap fun name =>
          Declaration.of? context.scopes.current .variable name (captures.text? .type) }

/-- The form `a, b :=`, also at the head of a statement. -/
def shortVariables : Rule where
  pattern :=
    lineStart ++ optional (anyText ["if", "for", "switch"] ++ blanks1) ++ capture .names nameList ++
      blanks ++ text ":="
  effect? captures _ context := do
    let names ← captures.text? .names
    if (identifiers names).any isKeyword then
      none
    else
      return {
        declarations :=
          (identifiers names).filterMap (Declaration.of? context.scopes.current .variable) }

/-- The form `name(` in the body of a type. -/
def interfaceMethod : Rule where
  pattern := lineStart ++ capture .name word ++ blanks ++ char '('
  effect? captures _ context := do
    let name ← captures.text? .name
    if context.scopes.currentKind ≠ .classType || isKeyword name then
      none
    else
      return Effect.ofDeclarations
        (Declaration.of? context.scopes.owner .method name none "Interface method").toList

/-- The form `a, b type` in the body of a type. -/
def field : Rule where
  pattern := lineStart ++ capture .names nameList ++ blanks1 ++ capture .type typeName
  effect? captures _ context := do
    let names ← captures.text? .names
    let dataType ← captures.text? .type
    if context.scopes.currentKind ≠ .classType || (identifiers names).any isKeyword then
      none
    else
      return {
        declarations :=
          (identifiers names).filterMap fun name =>
            Declaration.of? context.scopes.owner .property name dataType }

/-- The rules for Go. -/
def table : RuleTable where
  cascade :=
    [groupEnd, groupImport, groupSpec, package, groupStart, imports, function, types, constants,
     plainVariables, shortVariables, interfaceMethod, field]

end Symtab.Rules.Go
