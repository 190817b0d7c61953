import Symtab.Proofs.JavaLines

/-!
# Java programs as trees

Nested classes, printed with one construct a line. A scan of the printed program finds what a walk
over the tree finds: methods with their types and constructors without one, for modifiers in any
number.
-/

set_option autoImplicit false

namespace Symtab.JavaTree

open Rules.Java

/-!
## Trees
-/

/-- A field or local variable `type name = 0;`. -/
structure Variable where
  leading : List (WordOf variableModifiers)
  type : PlainName
  name : PlainName

/-- The first line of a method or constructor. -/
inductive Header where
  | method (leading : List (WordOf methodModifiers)) (type name : PlainName)
  /-- A constructor with at least one modifier. It need not be named like its class. -/
  | constructor (leading : List (WordOf methodModifiers)) (last : WordOf methodModifiers)
      (name : PlainName)
  /-- A constructor of the enclosing class without modifiers. -/
  | bareConstructor

mutual

inductive ClassTree where
  | mk (leading : List (WordOf modifiers)) (name : PlainName) (members : List Member)

inductive Member where
  | field (item : Variable)
  | routine (header : Header) (locals : List Variable)
  | nested (inner : ClassTree)

end

def Variable.line (item : Variable) : List Char :=
  variableLine item.leading item.type item.name

def Header.line (owner : PlainName) : Header → List Char
  | .method leading type name => methodLine leading type name
  | .constructor leading last name => constructorLine leading last name
  | .bareConstructor => bareConstructorLine owner

mutual

/-- The lines of a class, each body closed by a brace on its own line. -/
def ClassTree.lines : ClassTree → List (List Char)
  | .mk leading name members => classLine leading name :: (Member.allLines name members ++ [['}']])

def Member.lines (owner : PlainName) : Member → List (List Char)
  | .field item => [item.line]
  | .routine header locals => header.line owner :: (locals.map Variable.line ++ [['}']])
  | .nested inner => inner.lines

def Member.allLines (owner : PlainName) : List Member → List (List Char)
  | [] => []
  | member :: rest => member.lines owner ++ Member.allLines owner rest

end

/-- The text of a program. -/
def print (program : List ClassTree) : String :=
  String.ofList (Text.joinLines (program.flatMap ClassTree.lines))

/-!
## The walk
-/

def symbol (name : String) (kind : Kind) (scope : String) (line : Nat)
    (dataType : Option String := none) : Symbol :=
  { name, kind, scope, line, language := .java, dataType }

def Variable.symbol (item : Variable) (scope : String) (number : Nat) : Symbol :=
  JavaTree.symbol item.name.name
    (if item.leading.any ("final".toList == ·.text) then .constant else .variable) scope
    number item.type.name

def Header.name (owner : PlainName) : Header → PlainName
  | .method _ _ name => name
  | .constructor _ _ name => name
  | .bareConstructor => owner

def Header.symbol (owner : PlainName) (number : Nat) : Header → Symbol
  | .method _ type name => JavaTree.symbol name.name .method owner.name number type.name
  | .constructor _ _ name => JavaTree.symbol name.name .constructor owner.name number
  | .bareConstructor => JavaTree.symbol owner.name .constructor owner.name number

/-- The symbols of variables that stand one a line. -/
def variableSymbols (scope : String) (number : Nat) (items : List Variable) : List Symbol :=
  (items.zipIdx number).map fun (item, line) => item.symbol scope line

mutual

/-- The symbols of a class whose first line has the given number. -/
def ClassTree.symbols (scope : String) (number : Nat) : ClassTree → List Symbol
  | .mk _ name members =>
    symbol name.name .classType scope number :: Member.allSymbols name (number + 1) members

def Member.symbols (owner : PlainName) (number : Nat) : Member → List Symbol
  | .field item => [item.symbol owner.name number]
  | .routine header locals =>
    header.symbol owner number :: variableSymbols (header.name owner).name (number + 1) locals
  | .nested inner => inner.symbols owner.name number

def Member.allSymbols (owner : PlainName) (number : Nat) : List Member → List Symbol
  | [] => []
  | member :: rest =>
    member.symbols owner number ++ Member.allSymbols owner
      (number + (member.lines owner).length) rest

end

/-- The symbols of classes that stand one below the other. -/
def programSymbols (number : Nat) : List ClassTree → List Symbol
  | [] => []
  | tree :: rest =>
    tree.symbols globalScope number ++ programSymbols (number + tree.lines.length) rest

/-!
## Scanning a tree
-/

section Lines

private theorem isPrintedLine_spaced {words : List String} (leading : List (WordOf words))
    (first second : AsciiWord) (finish : String) (oneLine : '\n' ∉ finish.toList)
    (last : finish.toList.getLast?.any (Pattern.oneOf [';', ',', '{', '}'])) :
    IsPrintedLine .java (led leading (first.text ++ ' ' :: (second.text ++ finish.toList))) := by
  refine isPrintedLine_led leading rfl ?_ (first.any_head?_append _) ?_
  · rw [← List.count_eq_zero, first.count_spaced second (by decide) (by decide), List.count_eq_zero]
    exact oneLine
  · rw [← List.cons_append, ← List.append_assoc]
    exact any_getLast? last _

private theorem isPrintedLine_routine {words : List String} (leading : List (WordOf words))
    (name : AsciiWord) :
    IsPrintedLine .java (led leading (name.text ++ "() \x7b".toList)) := by
  have endsInBrace : "() \x7b".toList.getLast?.any (Pattern.oneOf [';', ',', '{', '}']) = true := by
    decide
  exact isPrintedLine_led leading rfl (name.not_mem_append (by decide) (by decide))
    (name.any_head?_append _)
    (any_getLast? endsInBrace _)

theorem Variable.isPrintedLine (item : Variable) : IsPrintedLine .java item.line :=
  isPrintedLine_spaced item.leading item.type.toAsciiWord item.name.toAsciiWord " = 0;" (by decide)
    (by decide)

theorem Header.isPrintedLine (owner : PlainName) (header : Header) :
    IsPrintedLine .java (header.line owner) := by
  cases header with
  | method leading type name =>
    exact isPrintedLine_spaced leading type.toAsciiWord name.toAsciiWord "() \x7b" (by decide)
      (by decide)
  | constructor leading last name =>
    exact isPrintedLine_routine (leading ++ [last]) name.toAsciiWord
  | bareConstructor => exact isPrintedLine_routine ([] : List (WordOf modifiers)) owner.toAsciiWord

mutual

theorem ClassTree.isPrintedLine (tree : ClassTree) :
    ∀ line ∈ tree.lines, IsPrintedLine .java line := by
  cases tree with
  | mk leading name members =>
    rw [ClassTree.lines]
    have header :=
      isPrintedLine_spaced leading classWord name.toAsciiWord " \x7b" (by decide) (by decide)
    exact isPrintedLine_block rfl header (Member.allArePrintedLines name members)

theorem Member.isPrintedLine (owner : PlainName) (member : Member) :
    ∀ line ∈ member.lines owner, IsPrintedLine .java line := by
  cases member with
  | field item =>
    rw [Member.lines, List.forall_mem_singleton]
    exact item.isPrintedLine
  | routine header locals =>
    rw [Member.lines]
    refine isPrintedLine_block rfl (header.isPrintedLine owner) ?_
    exact List.forall_mem_map.mpr fun item _ => item.isPrintedLine
  | nested inner =>
    rw [Member.lines]
    exact inner.isPrintedLine

theorem Member.allArePrintedLines (owner : PlainName) (members : List Member) :
    ∀ line ∈ Member.allLines owner members, IsPrintedLine .java line := by
  cases members with
  | nil => simp [Member.allLines]
  | cons member rest =>
    rw [Member.allLines, List.forall_mem_append]
    exact ⟨member.isPrintedLine owner, Member.allArePrintedLines owner rest⟩

end

end Lines

section Runs

open Context

private theorem foldl_variables (items : List Variable) (number : Nat) (context : Context) :
    (numberFrom number (items.map Variable.line)).foldl (step .java) context =
      context.adding (variableSymbols context.scopes.current number items) := by
  refine foldl_step_each (fun later => later.scopes.current = context.scopes.current)
    (fun _ _ same => same) ?_
    items number context rfl
  intro item number later same
  have declared := step_variable item.leading item.type item.name number later
  rw [same] at declared
  exact declared

/-- The first line of a routine reports it and opens its body. -/
theorem Header.step_line (owner : PlainName) (header : Header) (number : Nat) {context : Context}
    (inside : context.scopes.innermost = ⟨owner.name, .classType⟩) :
    ∃ declarations, declarations.map (·.toSymbol .java number) = [header.symbol owner number] ∧
      context.step .java ⟨number, header.line owner⟩ =
        context.apply .java number { declarations, opens :=
          [⟨(header.name owner).name, .function⟩] } := by
  have current : context.scopes.current = owner.name := by rw [ScopeStack.current, inside]
  cases header with
  | method leading type name =>
    refine ⟨_, ?_, step_method leading type name number context⟩
    rw [current]
    rfl
  | constructor leading last name =>
    refine ⟨_, ?_, step_constructor leading last name number context⟩
    rw [current]
    rfl
  | bareConstructor =>
    refine ⟨_, ?_, step_bareConstructor owner number inside⟩
    rw [current]
    rfl

mutual

theorem ClassTree.foldl_lines (tree : ClassTree) (number : Nat) (context : Context) :
    (numberFrom number tree.lines).foldl (step .java) context =
      context.adding (tree.symbols context.scopes.current number) := by
  cases tree with
  | mk leading name members =>
    exact foldl_step_block (step_class leading name number context)
      (Member.foldl_allLines name members (number + 1) _ rfl)

theorem Member.foldl_lines (owner : PlainName) (member : Member) (number : Nat) (context : Context)
    (inside : context.scopes.innermost = ⟨owner.name, .classType⟩) :
    (numberFrom number (member.lines owner)).foldl (step .java) context =
      context.adding (member.symbols owner number) := by
  have current : context.scopes.current = owner.name := by rw [ScopeStack.current, inside]
  cases member with
  | field item =>
    have declared := foldl_variables [item] number context
    rw [current] at declared
    exact declared
  | routine header locals =>
    obtain ⟨declarations, reported, opens⟩ := header.step_line owner number inside
    refine (foldl_step_block opens (foldl_variables locals (number + 1) _)).trans ?_
    rw [reported]
    rfl
  | nested inner =>
    have nested := inner.foldl_lines number context
    rw [current] at nested
    exact nested

theorem Member.foldl_allLines (owner : PlainName) (members : List Member) (number : Nat)
    (context : Context) (inside : context.scopes.innermost = ⟨owner.name, .classType⟩) :
    (numberFrom number (Member.allLines owner members)).foldl (step .java) context =
      context.adding (Member.allSymbols owner number members) := by
  cases members with
  | nil => exact (adding_nil context).symm
  | cons member rest =>
    rw [Member.allLines, Member.allSymbols]
    exact foldl_step_append (member.foldl_lines owner number context inside)
      (Member.foldl_allLines owner rest (number + (member.lines owner).length) _ inside)

end

private theorem foldl_program (program : List ClassTree) (number : Nat) (context : Context)
    (outside : context.scopes.current = globalScope) :
    (numberFrom number (program.flatMap ClassTree.lines)).foldl (step .java) context =
      context.adding (programSymbols number program) := by
  induction program generalizing number context with
  | nil => exact (adding_nil context).symm
  | cons tree rest ih =>
    have first := tree.foldl_lines number context
    rw [outside] at first
    exact foldl_step_append first (ih (number + tree.lines.length) _ outside)

end Runs

/-- A scan of printed classes reports what a walk over them finds, the first of each declaration. -/
theorem scan_print_classes (program : List ClassTree) :
    scan .java (print program) = dedup (programSymbols 1 program) := by
  have printed : ∀ line ∈ program.flatMap ClassTree.lines, IsPrintedLine .java line := by
    intro line member
    obtain ⟨tree, _, inTree⟩ := List.mem_flatMap.mp member
    exact tree.isPrintedLine line inTree
  have run := foldl_program program 1 Context.initial rfl
  rw [scan, print, String.toList_ofList, significantLines_joinLines printed, Context.run, run]
  rfl

/-- Of three modifiers the last one stands where a method has its type, and a bare constructor is
named like its class. -/
example :
    let plain : PlainName := ⟨⟨"A".toList, by decide, by decide⟩, by decide, by decide, by decide⟩
    let «public» : WordOf methodModifiers := ⟨⟨"public".toList, by decide, by decide⟩, by decide⟩
    let «final» : WordOf variableModifiers := ⟨⟨"final".toList, by decide, by decide⟩, by decide⟩
    let program := [ClassTree.mk [] plain [
      .routine (.constructor [«public», «public»] «public» plain) [⟨[], plain, plain⟩],
      .routine .bareConstructor [⟨[«final»], plain, plain⟩],
      .routine (.method [«public»] plain plain) []]]
    program.flatMap ClassTree.lines =
        ["class A \x7b", "public public public A() \x7b", "A A = 0;", "\x7d", "A() \x7b",
          "final A A = 0;", "\x7d",
         "public A A() \x7b", "\x7d", "\x7d"].map (·.toList) ∧
      programSymbols 1 program =
        [symbol "A" .classType "global" 1, symbol "A" .constructor "A" 2,
          symbol "A" .variable "A" 3 "A",
         symbol "A" .constructor "A" 5, symbol "A" .constant "A" 6 "A",
           symbol "A" .method "A" 8 "A"] := by
  decide

end Symtab.JavaTree
