import Symtab.Rules.C
import Symtab.Scan.Words

/-!
# Rules for C++

A class body ends with a semicolon after its brace, which closes no scope, so what follows a class
stays inside it until a line that is exactly a closing brace. A member defined outside its class is
scoped to the class that its name is qualified with.
-/

set_option autoImplicit false

namespace Symtab.Rules.Cpp

open Pattern

/-- The words that say how a function is declared and not what it returns. -/
def specifiers : List String :=
  ["static", "inline", "virtual", "explicit", "constexpr", "consteval", "friend", "extern"]

/-- The words that can stand before the type of a variable. -/
def qualifiers : List String :=
  ["static", "const", "constexpr", "extern", "volatile", "mutable", "inline", "thread_local",
   "unsigned", "signed", "struct", "enum"]

/-- A body up to the end of the line. -/
def openBody : Pattern :=
  char '{' ++ many inLine

/-- A body up to the end of the line, or a semicolon. -/
def bodyOrSemicolon : Pattern :=
  openBody <|> char ';'

/-- The parameters of a template. -/
def templateHead : Pattern :=
  optional (text "template" ++ blanks ++ char '<' ++ many (noneOf ['>']) ++ char '>' ++ blanks)

/-- Names that qualify another one. -/
def qualification : Pattern :=
  repeated (word ++ text "::")

/-- A name that may be that of a destructor. -/
def memberName : Pattern :=
  optional (char '~') ++ word

/-- The form `namespace name`, which opens a body and declares nothing. -/
def namespaces : Rule where
  pattern :=
    lineStart ++ optional (text "inline" ++ blanks1) ++ text "namespace" ++ blanks1 ++
      capture .name (many1 (wordOr [':'])) ++ blanks ++ optional openBody ++ lineEnd
  effect? captures line _ := do
    let name ← captures.text? .name
    return {
      opens :=
        Scope.openedIf (opensBlock line || !line.contains '{') (Text.lastSegment ':' name) .module }

/-- The form `class name`, and the other words that declare a type. A declaration that ends in a
semicolon has no body. -/
def classes : Rule where
  pattern :=
    lineStart ++ templateHead ++
      ((text "enum" ++ blanks1 ++ anyText ["class", "struct"]) <|>
        anyText ["class", "struct", "union", "enum"]) ++
      blanks1 ++ optional (text "alignas(" ++ many (noneOf [')']) ++ char ')' ++ blanks1) ++
      capture .name word ++ blanks ++ optional (text "final" ++ blanks) ++
      optional (char ':' ++ many (noneOf [';', '{'])) ++ optional (capture .tail bodyOrSemicolon) ++
      lineEnd
  effect? captures line context := do
    let name ← captures.text? .name
    let opened :=
      match captures.text? .tail with
      | some tail => tail ≠ [';'] && opensBlock line
      | none => true
    return {
      declarations := (Declaration.of? context.scopes.current .classType name).toList
      opens := Scope.openedIf opened name .classType }

/-- Whether an argument can only be a value: a number, a text, a negated or referenced value, a list
or a literal word. -/
def isValue (argument : List Char) : Bool :=
  argument.head?.any (fun c => c.isDigit || oneOf ['"', '\'', '-', '&', '{'] c) ||
    argument.contains '"' || isAmong ["true", "false", "nullptr"] argument

/-- Whether a list in parentheses reads as the arguments of a call and not as parameters. -/
def looksLikeArguments (list : List Char) : Bool :=
  (commaSeparated list).any isValue

/-- A name without the mark of a destructor. -/
def baseName (name : List Char) : List Char :=
  name.dropWhile (· == '~')

/-- The effect of a constructor or destructor of a class. -/
def constructorEffect (line : List Char) (owner : String) (name : List Char) : Effect :=
  let description := if name.head? = some '~' then "Destructor" else "Class constructor"
  { declarations := (Declaration.of? owner .constructor name none description).toList
    opens :=
      Scope.openedIf (opensBlock line || !(endsIn line ';' || endsIn line '}')) name .function }

/-- The name of the class that a qualification ends with. -/
def qualifyingClass (qualification : List Char) : List Char :=
  Text.lastSegment ':' (Text.stripEnd (· == ':') qualification)

/-- The form `name(…)` for a constructor: in the body of the class of that name, or qualified with
it. -/
def constructors : Rule where
  pattern :=
    lineStart ++ capture .owner qualification ++ capture .name memberName ++ blanks ++ char '(' ++
      capture .parameters (many (noneOf [')'])) ++ char ')' ++ blanks ++
      optional (text "noexcept" ++ blanks) ++ optional (char ':' ++ many inLine) ++
      optional (capture .tail bodyOrSemicolon) ++ lineEnd
  effect? captures line context := do
    let qualification ← captures.text? .owner
    let name ← captures.text? .name
    let base := baseName name
    if qualification.isEmpty then
      if context.scopes.currentKind ≠ .classType ||
          context.scopes.current ≠ String.ofList base then
        none
      else
        return constructorEffect line context.scopes.current name
    else
      let owner := qualifyingClass qualification
      if owner ≠ base then none else return constructorEffect line (String.ofList owner) name

/-- The class that a qualified name belongs to. -/
def ownerOf? (qualified name : List Char) : Option (List Char) := do
  let qualification ← Text.dropSuffix? name qualified
  let bare := Text.stripEnd (· == ':') qualification
  if bare.isEmpty then none else return Text.lastSegment ':' bare

/-- The form `type name(…)`, as a function, as a method, or as a constructor with words before its
name. -/
def function : Rule where
  pattern :=
    lineStart ++ templateHead ++
      capture .head (repeated1 (one isAsciiNameStart ++
        many (wordOr [':', '<', '>', ',', '*', '&']) ++ blanks1)) ++
      many (oneOf ['*', '&']) ++ capture .name (qualification ++ memberName) ++ blanks ++
      char '(' ++ capture .parameters (many (noneOf [')'])) ++ char ')' ++ blanks ++
      many (noneOf [';', '{']) ++ optional (capture .tail bodyOrSemicolon) ++ lineEnd
  effect? captures line context := do
    let head ← captures.text? .head
    let qualified ← captures.text? .name
    let parameters ← captures.text? .parameters
    if (Text.words head).any isStatementKeyword || isStatementKeyword qualified ||
        looksLikeArguments parameters then
      none
    else
      let name := Text.lastSegment ':' qualified
      let base := baseName name
      let dataType := wordsWithout? specifiers head
      let inClass := context.scopes.currentKind = .classType
      let opened := Scope.openedIf (opensBlock line || !captures.has .tail) name .function
      match ownerOf? qualified name with
      | some owner =>
        if owner = base then
          return constructorEffect line (String.ofList owner) name
        else
          return {
            declarations := (Declaration.of? (String.ofList owner) .method name dataType).toList
            opens := opened }
      | none =>
        if inClass && context.scopes.current = String.ofList base then
          return constructorEffect line context.scopes.current name
        else
          return {
            declarations :=
              (Declaration.of? context.scopes.current (if inClass then .method else .function) name
                dataType).toList
            opens := opened }

/-- The form `type name`, with a value, an initialisation in parentheses or braces, another name or
a semicolon after it. -/
def plainVariables : Rule where
  pattern :=
    lineStart ++ repeated (anyText qualifiers ++ blanks1) ++
      capture .type (many1 (wordOr [':']) ++ optional
        (char '<' ++ many (noneOf [';', '=', '(', ')']) ++ char '>')) ++
      ((blanks ++ many1 (oneOf ['*', '&']) ++ blanks) <|> blanks1) ++ capture .name word ++
      blanks ++ repeated (char '[' ++ many (noneOf [']']) ++ char ']') ++ blanks ++
      capture .tail (one (oneOf ['=', ';', ',', '(', '{']))
  effect? captures line context := do
    let dataType ← captures.text? .type
    let name ← captures.text? .name
    let tail ← captures.text? .tail
    let head := declarationHead line
    if isStatementKeyword dataType || (tail ≠ ['('] && head.contains '(') then
      none
    else
      let kind := if hasWord head "const" || hasWord head "constexpr" then .constant else .variable
      return Effect.ofDeclarations
        (Declaration.of? context.scopes.current kind name dataType).toList

/-- The rules for C++. -/
def table : RuleTable where
  cascade := [macroDefinition, namespaces, classes, constructors, function, plainVariables]

end Symtab.Rules.Cpp
