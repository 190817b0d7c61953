import Symtab.Proofs.JavaScriptLines

/-!
# JavaScript programs as trees

Programs of nested functions, classes and methods, printed with one construct a line. A scan of the
printed program finds what a walk over the tree finds: each construct under the one around it, each
member under its class.
-/

set_option autoImplicit false

namespace Symtab.JavaScriptTree

/-!
## Trees
-/

/-- A name that a method can have. -/
structure MethodName extends AsciiWord where
  notConstructor : text ≠ "constructor".toList
  notKeyword : isAmong Rules.JavaScript.keywords text = false

mutual

inductive Statement where
  /-- `let name = 0;` -/
  | letVariable (name : AsciiWord)
  /-- `const name = 0;` -/
  | constant (name : AsciiWord)
  /-- `this.name = 0;` -/
  | thisProperty (name : AsciiWord)
  | function (name : AsciiWord) (body : List Statement)
  | classType (name : AsciiWord) (members : List Member)

inductive Member where
  /-- `name = 0;` -/
  | field (name : AsciiWord)
  | constructor (body : List Statement)
  | method (name : MethodName) (body : List Statement)

end

mutual

/-- The lines of a statement, a body closed by a brace on its own line. -/
def Statement.lines : Statement → List (List Char)
  | .letVariable name => [name.between "let " " = 0;"]
  | .constant name => [name.between "const " " = 0;"]
  | .thisProperty name => [name.between "this." " = 0;"]
  | .function name body =>
    name.between "function " "() \x7b" :: (Statement.allLines body ++ [['}']])
  | .classType name members => name.between "class " " \x7b" :: (Member.allLines members ++ [['}']])

def Statement.allLines : List Statement → List (List Char)
  | [] => []
  | statement :: rest => statement.lines ++ Statement.allLines rest

def Member.lines : Member → List (List Char)
  | .field name => [name.between "" " = 0;"]
  | .constructor body => "constructor() \x7b".toList :: (Statement.allLines body ++ [['}']])
  | .method name body => name.between "" "() \x7b" :: (Statement.allLines body ++ [['}']])

def Member.allLines : List Member → List (List Char)
  | [] => []
  | member :: rest => member.lines ++ Member.allLines rest

end

/-- The text of a program. -/
def print (program : List Statement) : String :=
  String.ofList (Text.joinLines (Statement.allLines program))

/-!
## The walk
-/

/-- What stands around a statement: the innermost construct and the innermost class, if there are
such. -/
structure Surroundings where
  innermost : Option String := none
  innermostClass : Option String := none

namespace Surroundings

/-- The scope of what is declared here. -/
def scope (around : Surroundings) : String :=
  around.innermost.getD "global"

/-- What a property of `this` belongs to: the innermost class, without one the function around, at
top level nothing. -/
def thisOwner? (around : Surroundings) : Option String :=
  around.innermostClass.or around.innermost

def inFunction (around : Surroundings) (name : String) : Surroundings :=
  { around with innermost := some name }

def inClass (name : String) : Surroundings :=
  { innermost := some name, innermostClass := some name }

end Surroundings

def symbol (name : String) (kind : Kind) (scope : String) (line : Nat) : Symbol :=
  { name, kind, scope, line, language := .javascript }

mutual

/-- The symbols of a statement whose first line has the given number. -/
def Statement.symbols (around : Surroundings) (number : Nat) : Statement → List Symbol
  | .letVariable name => [symbol name.name .variable around.scope number]
  | .constant name => [symbol name.name .constant around.scope number]
  | .thisProperty name =>
    around.thisOwner?.toList.map fun owner => symbol name.name .property owner number
  | .function name body =>
    symbol name.name .function around.scope number ::
      Statement.allSymbols (around.inFunction name.name) (number + 1) body
  | .classType name members =>
    symbol name.name .classType around.scope number ::
      Member.allSymbols name.name (number + 1) members

def Statement.allSymbols (around : Surroundings) (number : Nat) : List Statement → List Symbol
  | [] => []
  | statement :: rest =>
    statement.symbols around number ++ Statement.allSymbols around
      (number + statement.lines.length) rest

/-- The symbols of a member of the given class. -/
def Member.symbols (owner : String) (number : Nat) : Member → List Symbol
  | .field name => [symbol name.name .property owner number]
  | .constructor body =>
    symbol "constructor" .constructor owner number ::
      Statement.allSymbols ((Surroundings.inClass owner).inFunction "constructor") (number + 1) body
  | .method name body =>
    symbol name.name .method owner number ::
      Statement.allSymbols ((Surroundings.inClass owner).inFunction name.name) (number + 1) body

def Member.allSymbols (owner : String) (number : Nat) : List Member → List Symbol
  | [] => []
  | member :: rest =>
    member.symbols owner number ++ Member.allSymbols owner (number + member.lines.length) rest

end

/-!
## Scanning a tree
-/

/-- The open bodies are those of the constructs around. -/
structure Surroundings.Describes (around : Surroundings) (stack : ScopeStack) : Prop where
  current : stack.current = around.scope
  isRoot : stack.isRoot = around.innermost.isNone
  nearest : stack.nearest? .classType = around.innermostClass

namespace Surroundings

private theorem describes_empty : Describes {} ScopeStack.empty where
  current := rfl
  isRoot := rfl
  nearest := rfl

theorem Describes.pushFunction {around : Surroundings} {stack : ScopeStack}
    (describes : around.Describes stack) (name : String) :
    (around.inFunction name).Describes (stack.push ⟨name, .function⟩) where
  current := rfl
  isRoot := rfl
  nearest := describes.nearest

private theorem describes_pushClass (stack : ScopeStack) (name : String) :
    (inClass name).Describes (stack.push ⟨name, .classType⟩) where
  current := rfl
  isRoot := rfl
  nearest := rfl

theorem Describes.thisOwner? {around : Surroundings} {stack : ScopeStack}
    (describes : around.Describes stack) :
    around.thisOwner? = if stack.isRoot then none else some stack.owner := by
  obtain ⟨current, isRoot, nearest⟩ := describes
  cases innermost : around.innermost with
  | none =>
    -- Without an open body there is no class either.
    have empty : stack.opened = [] := by simpa [ScopeStack.isRoot, innermost] using isRoot
    have noClass : around.innermostClass = none := by
      rw [← nearest, ScopeStack.nearest?, empty]
      rfl
    simp [Surroundings.thisOwner?, innermost, noClass, isRoot]
  | some name =>
    rw [isRoot, ScopeStack.owner, nearest, current, Surroundings.scope,
      Surroundings.thisOwner?, innermost]
    cases around.innermostClass with
    | none => rfl
    | some owner => rfl

end Surroundings

section Lines

mutual

theorem Statement.isPrintedLine (statement : Statement) :
    ∀ line ∈ statement.lines, IsPrintedLine .javascript line := by
  cases statement with
  | letVariable name | constant name | thisProperty name =>
    rw [Statement.lines, List.forall_mem_singleton]
    exact name.isPrintedLine_between rfl (by decide) (by decide) (by decide) (by decide)
  | function name body =>
    rw [Statement.lines]
    exact isPrintedLine_block rfl
      (name.isPrintedLine_between rfl (by decide) (by decide) (by decide) (by decide))
      (Statement.allArePrintedLines body)
  | classType name members =>
    rw [Statement.lines]
    exact isPrintedLine_block rfl
      (name.isPrintedLine_between rfl (by decide) (by decide) (by decide) (by decide))
      (Member.allArePrintedLines members)

theorem Statement.allArePrintedLines (statements : List Statement) :
    ∀ line ∈ Statement.allLines statements, IsPrintedLine .javascript line := by
  cases statements with
  | nil => simp [Statement.allLines]
  | cons statement rest =>
    rw [Statement.allLines, List.forall_mem_append]
    exact ⟨statement.isPrintedLine, Statement.allArePrintedLines rest⟩

theorem Member.isPrintedLine (member : Member) :
    ∀ line ∈ member.lines, IsPrintedLine .javascript line := by
  cases member with
  | field name =>
    rw [Member.lines, List.forall_mem_singleton]
    exact name.isPrintedLine_between rfl (by decide) (by decide) (by decide) (by decide)
  | constructor body =>
    rw [Member.lines]
    exact isPrintedLine_block rfl (isPrintedLine_of_ends rfl (by decide) (by decide) (by decide))
      (Statement.allArePrintedLines body)
  | method name body =>
    rw [Member.lines]
    exact isPrintedLine_block rfl
      (name.isPrintedLine_between rfl (by decide) (by decide) (by decide) (by decide))
      (Statement.allArePrintedLines body)

theorem Member.allArePrintedLines (members : List Member) :
    ∀ line ∈ Member.allLines members, IsPrintedLine .javascript line := by
  cases members with
  | nil => simp [Member.allLines]
  | cons member rest =>
    rw [Member.allLines, List.forall_mem_append]
    exact ⟨member.isPrintedLine, Member.allArePrintedLines rest⟩

end

end Lines

section Runs

open Rules.JavaScript Context

private theorem numberFrom_singleton (number : Nat) (text : List Char) :
    numberFrom number [text] = [⟨number, text⟩] := rfl

/-- The state of a scan in the body of a class. -/
structure InClassBody (owner : String) (context : Context) : Prop where
  describes : (Surroundings.inClass owner).Describes context.scopes
  kind : inClassBody context = true

theorem InClassBody.owner {owner : String} {context : Context}
    (inside : InClassBody owner context) :
    context.scopes.owner = owner := by
  rw [ScopeStack.owner, inside.describes.nearest]
  rfl

theorem InClassBody.adding {owner : String} {context : Context} (inside : InClassBody owner context)
    (symbols : List Symbol) :
    InClassBody owner (context.adding symbols) :=
  ⟨inside.describes, inside.kind⟩

mutual

theorem Statement.foldl_lines (statement : Statement) (around : Surroundings) (number : Nat)
    (context : Context) (describes : around.Describes context.scopes) :
    (numberFrom number statement.lines).foldl (step .javascript) context =
      context.adding (statement.symbols around number) := by
  cases statement with
  | letVariable name =>
    have declared := step_declaration "let" (by decide) name number context
    rw [describes.current] at declared
    exact declared
  | constant name =>
    have declared := step_declaration "const" (by decide) name number context
    rw [describes.current] at declared
    exact declared
  | thisProperty name =>
    rw [Statement.lines, numberFrom_singleton, List.foldl_cons, List.foldl_nil, step_this,
      Statement.symbols, describes.thisOwner?]
    cases context.scopes.isRoot with
    | true => exact (adding_nil context).symm
    | false => rfl
  | function name body =>
    refine (foldl_step_block (step_function name number context)
      (Statement.foldl_allLines body (around.inFunction name.name)
        (number + 1) _ (describes.pushFunction name.name))).trans ?_
    rw [describes.current]
    rfl
  | classType name members =>
    refine (foldl_step_block (step_class name number context)
      (Member.foldl_allLines members name.name (number + 1)
        _ ⟨Surroundings.describes_pushClass context.scopes name.name, rfl⟩)).trans ?_
    rw [describes.current]
    rfl

theorem Statement.foldl_allLines (statements : List Statement) (around : Surroundings)
    (number : Nat) (context : Context) (describes : around.Describes context.scopes) :
    (numberFrom number (Statement.allLines statements)).foldl (step .javascript) context =
      context.adding (Statement.allSymbols around number statements) := by
  cases statements with
  | nil => exact (adding_nil context).symm
  | cons statement rest =>
    rw [Statement.allLines, Statement.allSymbols]
    exact foldl_step_append (statement.foldl_lines around number context describes)
      (Statement.foldl_allLines rest around (number + statement.lines.length) _ describes)

theorem Member.foldl_lines (member : Member) (owner : String) (number : Nat) (context : Context)
    (inside : InClassBody owner context) :
    (numberFrom number member.lines).foldl (step .javascript) context =
      context.adding (member.symbols owner number) := by
  cases member with
  | field name =>
    have declared := step_field name number inside.kind
    rw [inside.owner] at declared
    exact declared
  | constructor body =>
    have notRoot : context.scopes.isRoot = false := inside.describes.isRoot
    refine (foldl_step_block (step_constructor number notRoot)
      (Statement.foldl_allLines body _ (number + 1)
        _ (inside.describes.pushFunction "constructor"))).trans ?_
    rw [inside.owner]
    rfl
  | method name body =>
    refine (foldl_step_block (step_method name.toAsciiWord name.notConstructor name.notKeyword
      number inside.kind) (Statement.foldl_allLines
      body _ (number + 1) _ (inside.describes.pushFunction name.name))).trans ?_
    rw [inside.owner]
    rfl

theorem Member.foldl_allLines (members : List Member) (owner : String) (number : Nat)
    (context : Context) (inside : InClassBody owner context) :
    (numberFrom number (Member.allLines members)).foldl (step .javascript) context =
      context.adding (Member.allSymbols owner number members) := by
  cases members with
  | nil => exact (adding_nil context).symm
  | cons member rest =>
    rw [Member.allLines, Member.allSymbols]
    exact foldl_step_append (member.foldl_lines owner number context inside)
      (Member.foldl_allLines rest owner (number + member.lines.length) _ (inside.adding _))

end

end Runs

/-- A scan of a printed program reports what a walk over the tree finds, the first of each
declaration. -/
theorem scan_print_statements (program : List Statement) :
    scan .javascript (print program) = dedup (Statement.allSymbols {} 1 program) := by
  have lines := significantLines_joinLines (Statement.allArePrintedLines program)
  have run := Statement.foldl_allLines program {} 1 Context.initial Surroundings.describes_empty
  rw [scan, print, String.toList_ofList, lines, Context.run, run]
  rfl

/-- Names that are keywords, and a property of the class around a function around the assignment. -/
example :
    let classWord : AsciiWord := ⟨"class".toList, by decide, by decide⟩
    let getWord : MethodName := ⟨⟨"get".toList, by decide, by decide⟩, by decide, by decide⟩
    let program :=
      [Statement.classType classWord
        [.method getWord [.function classWord [.thisProperty classWord]]]]
    print program =
      "class class \x7b\nget() \x7b\nfunction class() \x7b\nthis.class = 0;\n\x7d\n\x7d\n\x7d" ∧
      Statement.allSymbols {} 1 program =
        [symbol "class" .classType "global" 1, symbol "get" .method "class" 2,
          symbol "class" .function "get" 3,
         symbol "class" .property "class" 4] := by
  decide

end Symtab.JavaScriptTree
