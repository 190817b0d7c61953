import Symtab.Builtin
import Symtab.Scan.Rule
import Symtab.Scan.Words

/-!
# Rules for Python

Bodies have no closing mark, so a function or class stays open until a line that is exactly a
closing brace. Imports belong to the outermost scope wherever they stand, and a check reads the
calls of built-in functions.
-/

set_option autoImplicit false

namespace Symtab.Rules.Python

open Pattern

/-- Whether a text is a keyword. -/
def isKeyword (word : List Char) : Bool :=
  Builtin.isPythonKeyword (String.ofList word)

/-- Whether a text is a built-in name. -/
def isBuiltin (word : List Char) : Bool :=
  Builtin.isPythonName (String.ofList word)

/-- An assignment sign that is no comparison. -/
def assigned : Pattern :=
  char '=' ++ (one (noneOf ['=']) <|> lineEnd)

/-- The form `def name(`. -/
def function : Rule where
  pattern := wordEdge ++ text "def" ++ blanks1 ++ capture .name word ++ blanks ++ char '('
  effect? captures _ context := do
    let name ← captures.text? .name
    let kind := if context.scopes.currentKind = .classType then .method else .function
    return {
      declarations := (Declaration.of? context.scopes.current kind name).toList
      opens := (Scope.of? name .function).toList }

/-- The form `class name`. -/
def classes : Rule where
  pattern := wordEdge ++ text "class" ++ blanks1 ++ capture .name word
  effect? captures _ context := do
    let name ← captures.text? .name
    return {
      declarations := (Declaration.of? context.scopes.current .classType name).toList
      opens := (Scope.of? name .classType).toList }

/-- The form `self.name =`, with or without a type, inside any body. -/
def selfProperty : Rule where
  pattern :=
    lineStart ++ text "self." ++ capture .name word ++ blanks ++
      optional (char ':' ++ blanks ++ capture .type word) ++ blanks ++ assigned
  effect? captures _ context := do
    let name ← captures.text? .name
    if context.scopes.isRoot then
      none
    else
      return Effect.ofDeclarations
        (Declaration.of? context.scopes.owner .property name (captures.text? .type)).toList

/-- The form `name: type`, with or without a value. -/
def typedVariable : Rule where
  pattern :=
    lineStart ++ capture .name word ++ blanks ++ char ':' ++ blanks ++ capture .type word ++
      blanks ++ optional (char '=' ++ blanks ++ many1 fun c => !Text.isBlank c && c != ',')
  effect? captures _ context := do
    let name ← captures.text? .name
    let dataType ← captures.text? .type
    if isKeyword name then
      none
    else
      return { declarations :=
        (Declaration.of? context.scopes.current .variable name dataType).toList }

/-- The form `a, b =`. A built-in name that is bound again does not become a variable. -/
def plainVariables : Rule where
  pattern :=
    lineStart ++ capture .names (word ++ repeated (blanks ++ char ',' ++ blanks ++ word)) ++
      blanks ++ assigned
  effect? captures _ context := do
    let targets ← captures.text? .names
    let names := commaSeparated targets
    if names.any isKeyword then
      none
    else
      return {
        declarations :=
          (names.filter fun name => !isBuiltin name).filterMap
            (Declaration.of? context.scopes.current .variable) }

/-- An item of an import list without its alias. -/
def importTarget (item : List Char) : List Char :=
  Text.trim (Text.before " as ".toList item)

/-- The name that an item of `import` brings in: a path with an alias is named in full, one without
by its first segment. -/
def importedModule (item : List Char) : List Char :=
  if Text.occursIn " as ".toList item then importTarget item
  else (Text.trim item).takeWhile (· != '.')

/-- The name that an item of `from … import` brings in; a star stands for the module itself. -/
def importedMember (module item : List Char) : List Char :=
  let target := importTarget (Text.strip (fun c => c == '(' || c == ')') (Text.trim item))
  if target = ['*'] then module else target

/-- The forms `import a, b.c as d` and `from a import b, c as d`. -/
def imports : Rule where
  pattern :=
    lineStart ++
      ((text "import" ++ blanks1 ++ capture .names (many1 (noneOf ['#']))) <|>
        (text "from" ++ blanks1 ++ capture .path (many1 (wordOr ['.'])) ++ blanks1 ++
          text "import" ++ blanks1 ++ capture .items (many1 (noneOf ['#']))))
  effect? captures _ _ :=
    let names :=
      match captures.text? .names, captures.text? .path, captures.text? .items with
      | some modules, _, _ => (modules.splitOn ',').map importedModule
      | none, some module, some items => (items.splitOn ',').map (importedMember module)
      | _, _, _ => []
    some (Effect.ofDeclarations
      (names.filterMap fun name => Declaration.of? globalScope .imported name "module".toList))

/-- A call of a built-in function, reported once for each function. -/
def builtinCall : Rule where
  pattern := wordEdge ++ capture .name word ++ blanks ++ char '('
  effect? captures _ context := do
    let name ← captures.text? .name
    if !isBuiltin name || context.hasName (String.ofList name) then
      none
    else
      return Effect.ofDeclarations
        (Declaration.of? builtinScope .builtin name "builtin_function_or_method".toList).toList

/-- The rules for Python. -/
def table : RuleTable where
  cascade := [function, classes, selfProperty, typedVariable, plainVariables, imports]
  checks := [builtinCall]

end Symtab.Rules.Python
