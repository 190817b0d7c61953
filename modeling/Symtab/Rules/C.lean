import Symtab.Scan.Rule
import Symtab.Scan.Words

/-!
# Rules for C

A structure's body usually ends with a semicolon after its brace, which closes no scope, so
structures are recorded without opening one. Of the preprocessor's lines, which C++ has too, only
the definition of a macro declares something.
-/

set_option autoImplicit false

namespace Symtab.Rules

open Pattern

/-- The form `#define name`. -/
def macroDefinition : Rule where
  pattern := lineStart ++ char '#' ++ blanks ++ text "define" ++ blanks1 ++ capture .name word
  effect? captures _ context := do
    let name ← captures.text? .name
    return Effect.ofDeclarations
      (Declaration.of? context.scopes.current .constant name none "Preprocessor macro").toList

namespace C

/-- The words that say how a function is stored and not what it returns. -/
def storageWords : List String :=
  ["static", "inline", "extern", "_Noreturn"]

/-- The words that can stand before the type of a variable. -/
def qualifiers : List String :=
  ["static", "const", "extern", "volatile", "register", "unsigned", "signed", "struct", "union",
   "enum"]

/-- Array bounds, any number of them. -/
def bounds : Pattern :=
  repeated (char '[' ++ many (noneOf [']']) ++ char ']')

/-- A body up to the end of the line. -/
def openBody : Pattern :=
  char '{' ++ many inLine

/-- The form `type name(…)`, as a definition or a declaration. -/
def function : Rule where
  pattern :=
    lineStart ++
      capture .head (repeated1 (one isAsciiNameStart ++ many (wordOr ['*']) ++ blanks1)) ++
      many (oneOf ['*']) ++ capture .name word ++ blanks ++ char '(' ++
      capture .parameters (many (noneOf [')'])) ++ char ')' ++ blanks ++
      optional (capture .tail (openBody <|> char ';')) ++ lineEnd
  effect? captures line context := do
    let head ← captures.text? .head
    let name ← captures.text? .name
    if isStatementKeyword name || (Text.words head).any isStatementKeyword then
      none
    else
      return {
        declarations :=
          (Declaration.of? context.scopes.current .function name
            (wordsWithout? storageWords head)).toList
        opens := Scope.openedIf (opensBlock line || !captures.has .tail) name .function }

/-- What a name for a type adds, whichever way it is introduced. -/
def typeAlias (captures : Captures) (context : Context) : Option Effect := do
  let name ← captures.text? .name
  return Effect.ofDeclarations
    (Declaration.of? context.scopes.current .classType name none "Type alias").toList

/-- The form `typedef … name;`. -/
def typeDefinition : Rule where
  pattern :=
    lineStart ++ text "typedef" ++ blanks1 ++ few inLine ++ capture .name word ++ blanks ++
      bounds ++ blanks ++ char ';' ++ lineEnd
  effect? captures _ context := typeAlias captures context

/-- A closing brace with a name, which ends the definition of a type. -/
def typeDefinitionEnd : Rule where
  pattern := lineStart ++ char '}' ++ blanks ++ capture .name word ++ blanks ++ char ';' ++ lineEnd
  effect? captures _ context := typeAlias captures context

/-- The form `struct name`, and the other words that declare a type. -/
def structures : Rule where
  pattern :=
    lineStart ++ optional (text "typedef" ++ blanks1) ++ anyText ["struct", "union", "enum"] ++
      blanks1 ++ capture .name word ++ blanks ++ optional openBody ++ lineEnd
  effect? captures _ context := do
    let name ← captures.text? .name
    return Effect.ofDeclarations (Declaration.of? context.scopes.current .classType name).toList

/-- The form `type name`, with a value, another name or a semicolon after it. -/
def plainVariables : Rule where
  pattern :=
    lineStart ++ repeated (anyText qualifiers ++ blanks1) ++ capture .type word ++
      ((blanks ++ many1 (oneOf ['*']) ++ blanks) <|> blanks1) ++ capture .name word ++ blanks ++
      bounds ++ blanks ++ one (oneOf ['=', ';', ','])
  effect? captures line context := do
    let dataType ← captures.text? .type
    let name ← captures.text? .name
    let head := declarationHead line
    if isStatementKeyword dataType || head.contains '(' then
      none
    else
      let kind := if hasWord head "const" then .constant else .variable
      return Effect.ofDeclarations
        (Declaration.of? context.scopes.current kind name dataType).toList

/-- The rules for C. -/
def table : RuleTable where
  cascade :=
    [macroDefinition, function, typeDefinition, typeDefinitionEnd, structures, plainVariables]

end C

end Symtab.Rules
