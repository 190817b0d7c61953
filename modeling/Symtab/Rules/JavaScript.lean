import Symtab.Builtin
import Symtab.Scan.Rule
import Symtab.Scan.Words

/-!
# Rules for JavaScript

The cascade reads functions, classes, members of a class body, destructuring and plain variables,
and imports. The checks read properties assigned through `this` or through a constructor's name,
prototype methods, and calls of methods of the global objects.
-/

set_option autoImplicit false

namespace Symtab.Rules.JavaScript

open Pattern

/-- The words that look like the name of a method and start a statement instead. -/
def keywords : List String :=
  ["if", "for", "while", "switch", "catch", "function", "return", "with", "do", "else"]

/-- Whether the innermost body is that of a class. -/
def inClassBody (context : Context) : Bool :=
  context.scopes.currentKind = .classType

/-- A name that may be private to its class. -/
def memberName : Pattern :=
  optional (char '#') ++ word

/-- The end of an assignment sign that is no comparison. -/
def assigned : Pattern :=
  char '=' ++ (one (noneOf ['=']) <|> lineEnd)

/-- What a declaring keyword declares. -/
def declaredKind (keyword : List Char) : Kind :=
  if keyword = "const".toList then .constant else .variable

/-- The form `function name(`, also as a generator. -/
def function : Rule where
  pattern :=
    wordEdge ++ text "function" ++ blanks ++ optional (char '*') ++ blanks1 ++ capture .name word ++
      blanks ++ char '('
  effect? captures line context := do
    let name ← captures.text? .name
    return {
      declarations := (Declaration.of? context.scopes.current .function name).toList
      opens := Scope.openedIf (opensScope line) name .function }

/-- The form `class name`. -/
def classes : Rule where
  pattern := wordEdge ++ text "class" ++ blanks1 ++ capture .name word
  effect? captures line context := do
    let name ← captures.text? .name
    return {
      declarations := (Declaration.of? context.scopes.current .classType name).toList
      opens := Scope.openedIf (opensScope line) name .classType }

/-- The form `constructor(` inside any body. -/
def constructors : Rule where
  pattern := lineStart ++ text "constructor" ++ blanks ++ char '('
  effect? _ line context :=
    let name := "constructor".toList
    if context.scopes.isRoot then
      none
    else
      some {
        declarations := (Declaration.of? context.scopes.owner .constructor name).toList
        opens := Scope.openedIf (opensBlock line) name .function }

/-- The form `name(…) {` in a class body, with the words that can stand before a method. -/
def method : Rule where
  pattern :=
    lineStart ++ optional (capture .modifier (text "static" ++ blanks1)) ++
      optional (text "async" ++ blanks1) ++
      optional ((text "get" ++ blanks1) <|> (text "set" ++ blanks1)) ++ optional (char '*') ++
      capture .name memberName ++ blanks ++ char '(' ++ many (noneOf [')']) ++ char ')' ++ blanks ++
      char '{'
  effect? captures line context := do
    let name ← captures.text? .name
    if !inClassBody context || isAmong keywords name then
      none
    else
      let description := if captures.has .modifier then some "Static method" else none
      return {
        declarations := (Declaration.of? context.scopes.owner .method name none description).toList
        opens := Scope.openedIf (opensBlock line) name .function }

/-- The form `name =` or `name;` in a class body. -/
def field : Rule where
  pattern :=
    lineStart ++ optional (capture .modifier (text "static" ++ blanks1)) ++
      capture .name memberName ++ blanks ++ (char '=' <|> char ';')
  effect? captures _ context := do
    let name ← captures.text? .name
    if !inClassBody context then
      none
    else
      let description := if captures.has .modifier then some "Static property" else none
      return Effect.ofDeclarations
        (Declaration.of? context.scopes.owner .property name none description).toList

/-- The local name that one piece of a destructuring list binds: the part after the last colon and
before the default value, without the dots of a rest element. -/
def boundLocal (binding : List Char) : List Char :=
  Text.dropLeading "...".toList (Text.trim (Text.afterLast ':' (declarationHead binding)))

/-- Whether a bound name is a plain identifier, so that patterns inside patterns are passed over. -/
def isPlainLocal (name : List Char) : Bool :=
  name.all fun c => Text.isIdentifierChar c || c == '$'

/-- The forms `let { a, b: c } =` and `let [a, b] =`. -/
def destructuring : Rule where
  pattern :=
    wordEdge ++ capture .keyword (anyText ["let", "const", "var"]) ++ blanks ++
      one (oneOf ['{', '[']) ++ capture .names (many1 (noneOf ['}', ']'])) ++
      one (oneOf ['}', ']']) ++ blanks ++ char '='
  effect? captures _ context := do
    let keyword ← captures.text? .keyword
    let bindings ← captures.text? .names
    let locals := ((bindings.splitOn ',').map boundLocal).filter isPlainLocal
    return Effect.ofDeclarations
      (locals.filterMap (Declaration.of? context.scopes.current (declaredKind keyword)))

/-- The form `let name`. -/
def plainVariables : Rule where
  pattern :=
    wordEdge ++ capture .keyword (anyText ["let", "const", "var"]) ++ blanks1 ++ capture .name word
  effect? captures _ context := do
    let keyword ← captures.text? .keyword
    let name ← captures.text? .name
    return { declarations :=
      (Declaration.of? context.scopes.current (declaredKind keyword) name).toList }

/-- The names in the braces of an import list, without their aliases. -/
def importedItems (items : List Char) : List (List Char) :=
  (items.splitOn ',').map fun item =>
    Text.dropLeading "type ".toList (Text.trim (Text.before " as ".toList item))

/-- The forms `import name`, `import { a, b as c }` and `import * as name`. -/
def imports : Rule where
  pattern :=
    lineStart ++ text "import" ++ blanks1 ++
      optional (capture .binding word ++ blanks ++ optional (char ',') ++ blanks) ++
      optional ((char '{' ++ capture .items (many (noneOf ['}'])) ++ char '}') <|>
        (char '*' ++ blanks1 ++ text "as" ++ blanks1 ++ capture .name word))
  effect? captures _ context :=
    let default := (captures.text? .binding).toList.filter (· != "from".toList)
    let items := (captures.text? .items).toList.flatMap importedItems
    let whole := (captures.text? .name).toList
    some (Effect.ofDeclarations
      ((default ++ items ++ whole).filterMap (Declaration.of? context.scopes.current .imported)))

/-- The form `this.name =` inside any body. -/
def thisProperty : Rule where
  pattern := wordEdge ++ text "this." ++ capture .name memberName ++ blanks ++ assigned
  effect? captures _ context := do
    let name ← captures.text? .name
    if context.scopes.isRoot then
      none
    else
      return Effect.ofDeclarations (Declaration.of? context.scopes.owner .property name).toList

/-- The form `Owner.name =`. -/
def staticProperty : Rule where
  pattern :=
    lineStart ++ capture .owner (one Char.isUpper ++ many Text.isWord) ++ char '.' ++
      capture .name word ++ blanks ++ assigned
  effect? captures _ _ := do
    let owner ← captures.text? .owner
    let name ← captures.text? .name
    if name = "prototype".toList then
      none
    else
      return Effect.ofDeclarations
        (Declaration.of? (String.ofList owner) .property name none "Static property").toList

/-- The form `Owner.prototype.name =`. -/
def prototypeMethod : Rule where
  pattern :=
    lineStart ++ capture .owner word ++ text ".prototype." ++ capture .name word ++ blanks ++
      char '='
  effect? captures _ _ := do
    let owner ← captures.text? .owner
    let name ← captures.text? .name
    return Effect.ofDeclarations
      (Declaration.of? (String.ofList owner) .method name none "Prototype method").toList

/-- An identifier that may hold `$`. -/
def dollarName : Pattern :=
  one (fun c => isAsciiNameStart c || c == '$') ++ many (wordOr ['$'])

/-- A call of a method of a global object, reported once for each method. -/
def builtinCall : Rule where
  pattern :=
    wordEdge ++ capture .owner dollarName ++ char '.' ++ capture .name dollarName ++ blanks ++
      char '('
  effect? captures _ context := do
    let owner ← captures.text? .owner
    let name ← captures.text? .name
    let object ← Builtin.javascriptMethod? (String.ofList owner) (String.ofList name)
    let dotted := owner ++ '.' :: name
    if context.hasName (String.ofList dotted) then
      none
    else
      return Effect.ofDeclarations
        (Declaration.of? builtinScope .builtin dotted object.typeTag.toList).toList

/-- The rules for JavaScript. -/
def table : RuleTable where
  cascade :=
    [function, classes, constructors, method, field, destructuring, plainVariables, imports]
  checks := [thisProperty, staticProperty, prototypeMethod, builtinCall]

end Symtab.Rules.JavaScript
