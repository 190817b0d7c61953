import Symtab.Proofs.RustLines

/-!
# Rust programs as trees

Nested items, printed with one construct a line. A scan of the printed program finds what a walk
over the tree finds. What a function is depends on the construct right around it alone, and
constructs that are not reported still scope what they hold.
-/

set_option autoImplicit false

namespace Symtab.RustTree

/-!
## Trees
-/

/-- A name that a variable can have: `_` discards the value. -/
structure VariableName extends AsciiWord where
  notDiscard : text ≠ ['_']

/-- A field `name: type,` of a structure. -/
structure Field where
  name : AsciiWord
  type : AsciiWord

mutual

inductive Item where
  /-- `let name: type = 0;` -/
  | letVariable (name : VariableName) (type : AsciiWord)
  /-- `const name: type = 0;` -/
  | constant (name type : AsciiWord)
  | function (item : FunctionItem)
  | module (name : AsciiWord) (items : List Item)
  | struct (name : AsciiWord) (fields : List Field)
  | implementation (name : AsciiWord) (functions : List FunctionItem)
  | trait (name : AsciiWord) (functions : List FunctionItem)

inductive FunctionItem where
  | mk (name : AsciiWord) (body : List Item)

end

def Field.line (field : Field) : List Char :=
  field.name.typed field.type "" ","

mutual

/-- The lines of an item, a body closed by a brace on its own line. -/
def Item.lines : Item → List (List Char)
  | .letVariable name type => [name.typed type "let " " = 0;"]
  | .constant name type => [name.typed type "const " " = 0;"]
  | .function item => item.lines
  | .module name items => name.between "mod " " \x7b" :: (Item.allLines items ++ [['}']])
  | .struct name fields => name.between "struct " " \x7b" :: (fields.map Field.line ++ [['}']])
  | .implementation name functions =>
    name.between "impl " " \x7b" :: (FunctionItem.allLines functions ++ [['}']])
  | .trait name functions =>
    name.between "trait " " \x7b" :: (FunctionItem.allLines functions ++ [['}']])

def Item.allLines : List Item → List (List Char)
  | [] => []
  | item :: rest => item.lines ++ Item.allLines rest

def FunctionItem.lines : FunctionItem → List (List Char)
  | .mk name body => name.between "fn " "() \x7b" :: (Item.allLines body ++ [['}']])

def FunctionItem.allLines : List FunctionItem → List (List Char)
  | [] => []
  | item :: rest => item.lines ++ FunctionItem.allLines rest

end

/-- The text of a program. -/
def print (program : List Item) : String :=
  String.ofList (Text.joinLines (Item.allLines program))

/-!
## The walk
-/

/-- The construct right around an item. -/
structure Parent where
  name : String := "global"
  /-- Whether it is an implementation or a trait. -/
  holdsMethods : Bool := false

def symbol (name : String) (kind : Kind) (scope : String) (line : Nat)
    (dataType : Option String := none) (description : Option String := none) : Symbol :=
  { name, kind, scope, line, language := .rust, dataType, description }

/-- The symbols of the fields of a structure, one a line. -/
def fieldSymbols (owner : String) (number : Nat) (fields : List Field) : List Symbol :=
  (fields.zipIdx number).map fun (field, line) =>
    symbol field.name.name .property owner line field.type.name

mutual

/-- The symbols of an item whose first line has the given number. -/
def Item.symbols (parent : Parent) (number : Nat) : Item → List Symbol
  | .letVariable name type => [symbol name.name .variable parent.name number type.name]
  | .constant name type => [symbol name.name .constant parent.name number type.name]
  | .function item => item.symbols parent number
  | .module name items => Item.allSymbols { name := name.name } (number + 1) items
  | .struct name fields =>
    symbol name.name .classType parent.name number "struct" ::
      fieldSymbols name.name (number + 1) fields
  | .implementation name functions =>
    FunctionItem.allSymbols { name := name.name, holdsMethods := true } (number + 1) functions
  | .trait name functions =>
    symbol name.name .classType parent.name number "trait" "Trait definition" ::
      FunctionItem.allSymbols { name := name.name, holdsMethods := true } (number + 1) functions

def Item.allSymbols (parent : Parent) (number : Nat) : List Item → List Symbol
  | [] => []
  | item :: rest =>
    item.symbols parent number ++ Item.allSymbols parent (number + item.lines.length) rest

def FunctionItem.symbols (parent : Parent) (number : Nat) : FunctionItem → List Symbol
  | .mk name body =>
    symbol name.name (if parent.holdsMethods then .method else .function) parent.name number ::
      Item.allSymbols { name := name.name } (number + 1) body

def FunctionItem.allSymbols (parent : Parent) (number : Nat) : List FunctionItem → List Symbol
  | [] => []
  | item :: rest =>
    item.symbols parent number ++ FunctionItem.allSymbols parent (number + item.lines.length) rest

end

/-!
## Scanning a tree
-/

/-- The innermost open body is that of the parent. -/
structure Parent.Describes (parent : Parent) (stack : ScopeStack) : Prop where
  current : stack.current = parent.name
  methods : decide (stack.currentKind = .implementation) = parent.holdsMethods

theorem Parent.describes_push (stack : ScopeStack) (scope : Scope) :
    Describes ⟨scope.name, decide (scope.kind = .implementation)⟩ (stack.push scope) where
  current := rfl
  methods := rfl

section Lines

theorem Field.isPrintedLine (field : Field) : IsPrintedLine .rust field.line :=
  field.name.isPrintedLine_typed rfl (by decide) (by decide) (by decide) (by decide) field.type

mutual

theorem Item.isPrintedLine (item : Item) : ∀ line ∈ item.lines, IsPrintedLine .rust line := by
  cases item with
  | letVariable name type | constant name type =>
    rw [Item.lines, List.forall_mem_singleton]
    exact AsciiWord.isPrintedLine_typed _ rfl (by decide) (by decide) (by decide) (by decide) type
  | function item =>
    rw [Item.lines]
    exact item.isPrintedLine
  | module name items =>
    rw [Item.lines]
    exact isPrintedLine_block rfl
      (name.isPrintedLine_between rfl (by decide) (by decide) (by decide) (by decide))
      (Item.allArePrintedLines items)
  | struct name fields =>
    rw [Item.lines]
    refine isPrintedLine_block rfl
      (name.isPrintedLine_between rfl (by decide) (by decide) (by decide) (by decide)) ?_
    exact List.forall_mem_map.mpr fun field _ => field.isPrintedLine
  | implementation name functions | trait name functions =>
    rw [Item.lines]
    exact isPrintedLine_block rfl
      (name.isPrintedLine_between rfl (by decide) (by decide) (by decide) (by decide))
      (FunctionItem.allArePrintedLines functions)

theorem Item.allArePrintedLines (items : List Item) :
    ∀ line ∈ Item.allLines items, IsPrintedLine .rust line := by
  cases items with
  | nil => simp [Item.allLines]
  | cons item rest =>
    rw [Item.allLines, List.forall_mem_append]
    exact ⟨item.isPrintedLine, Item.allArePrintedLines rest⟩

theorem FunctionItem.isPrintedLine (item : FunctionItem) :
    ∀ line ∈ item.lines, IsPrintedLine .rust line := by
  cases item with
  | mk name body =>
    rw [FunctionItem.lines]
    exact isPrintedLine_block rfl
      (name.isPrintedLine_between rfl (by decide) (by decide) (by decide) (by decide))
      (Item.allArePrintedLines body)

theorem FunctionItem.allArePrintedLines (items : List FunctionItem) :
    ∀ line ∈ FunctionItem.allLines items, IsPrintedLine .rust line := by
  cases items with
  | nil => simp [FunctionItem.allLines]
  | cons item rest =>
    rw [FunctionItem.allLines, List.forall_mem_append]
    exact ⟨item.isPrintedLine, FunctionItem.allArePrintedLines rest⟩

end

end Lines

section Runs

open Rules.Rust Context

/-- In the body of a structure, each field is a property of it. -/
theorem foldl_fields (fields : List Field) (owner : String) (number : Nat) {context : Context}
    (inside : context.scopes.currentKind = .classType) (owned : context.scopes.owner = owner) :
    (numberFrom number (fields.map Field.line)).foldl (step .rust) context =
      context.adding (fieldSymbols owner number fields) := by
  refine foldl_step_each
    (fun later => later.scopes.currentKind = .classType ∧ later.scopes.owner = owner)
    (fun _ _ holds => holds) ?_ fields number context ⟨inside, owned⟩
  rintro field number later ⟨stillInside, stillOwned⟩
  have declared := step_field field.name field.type number stillInside
  rw [stillOwned] at declared
  exact declared

mutual

theorem Item.foldl_lines (item : Item) (parent : Parent) (number : Nat) (context : Context)
    (describes : parent.Describes context.scopes) :
    (numberFrom number item.lines).foldl (step .rust) context =
      context.adding (item.symbols parent number) := by
  cases item with
  | letVariable name type =>
    have declared := step_variable name.toAsciiWord type name.notDiscard number context
    rw [describes.current] at declared
    exact declared
  | constant name type =>
    have declared := step_constant name type number context
    rw [describes.current] at declared
    exact declared
  | function item => exact item.foldl_lines parent number context describes
  | module name items =>
    exact foldl_step_block (step_module name number context)
      (Item.foldl_allLines items { name := name.name }
        (number + 1) _ (Parent.describes_push context.scopes ⟨name.name, .module⟩))
  | struct name fields =>
    refine (foldl_step_block (step_structure name number context)
      (foldl_fields fields name.name (number + 1) rfl rfl)).trans ?_
    rw [describes.current]
    rfl
  | implementation name functions =>
    exact foldl_step_block (step_implementation name number context)
      (FunctionItem.foldl_allLines functions { name := name.name, holdsMethods := true }
        (number + 1) _
        (Parent.describes_push context.scopes ⟨name.name, .implementation⟩))
  | trait name functions =>
    refine (foldl_step_block (step_trait name number context)
      (FunctionItem.foldl_allLines functions { name := name.name, holdsMethods := true }
        (number + 1) _
        (Parent.describes_push context.scopes ⟨name.name, .implementation⟩))).trans ?_
    rw [describes.current]
    rfl

theorem Item.foldl_allLines (items : List Item) (parent : Parent) (number : Nat) (context : Context)
    (describes : parent.Describes context.scopes) :
    (numberFrom number (Item.allLines items)).foldl (step .rust) context =
      context.adding (Item.allSymbols parent number items) := by
  cases items with
  | nil => exact (adding_nil context).symm
  | cons item rest =>
    rw [Item.allLines, Item.allSymbols]
    exact foldl_step_append (item.foldl_lines parent number context describes)
      (Item.foldl_allLines rest parent (number + item.lines.length) _ describes)

theorem FunctionItem.foldl_lines (item : FunctionItem) (parent : Parent) (number : Nat)
    (context : Context) (describes : parent.Describes context.scopes) :
    (numberFrom number item.lines).foldl (step .rust) context =
      context.adding (item.symbols parent number) := by
  cases item with
  | mk name body =>
    have kind : (if context.scopes.currentKind = .implementation then Kind.method else .function) =
        if parent.holdsMethods then .method else .function := by
      simp [← describes.methods]
    refine (foldl_step_block (step_function name number context)
      (Item.foldl_allLines body { name := name.name }
        (number + 1) _ (Parent.describes_push context.scopes ⟨name.name, .function⟩))).trans ?_
    rw [describes.current, kind]
    rfl

theorem FunctionItem.foldl_allLines (items : List FunctionItem) (parent : Parent) (number : Nat)
    (context : Context) (describes : parent.Describes context.scopes) :
    (numberFrom number (FunctionItem.allLines items)).foldl (step .rust) context =
      context.adding (FunctionItem.allSymbols parent number items) := by
  cases items with
  | nil => exact (adding_nil context).symm
  | cons item rest =>
    rw [FunctionItem.allLines, FunctionItem.allSymbols]
    exact foldl_step_append (item.foldl_lines parent number context describes)
      (FunctionItem.foldl_allLines rest parent (number + item.lines.length) _ describes)

end

end Runs

/-- A scan of a printed program reports what a walk over its items finds, the first of each
declaration. -/
theorem scan_print_items (program : List Item) :
    scan .rust (print program) = dedup (Item.allSymbols {} 1 program) := by
  have lines := significantLines_joinLines (Item.allArePrintedLines program)
  have run := Item.foldl_allLines program {} 1 Context.initial ⟨rfl, rfl⟩
  rw [scan, print, String.toList_ofList, lines, Context.run, run]
  rfl

/-- The same line is a method in an implementation and a function in its body, and a field can be
named like a keyword. -/
example :
    let fnWord : AsciiWord := ⟨"fn".toList, by decide, by decide⟩
    let forWord : AsciiWord := ⟨"for".toList, by decide, by decide⟩
    let program := [
      Item.implementation forWord [.mk fnWord [.function (.mk fnWord []),
        .constant fnWord forWord]],
      .struct forWord [⟨fnWord, forWord⟩]]
    print program =
        "impl for \x7b\nfn fn() \x7b\nfn fn() \x7b\n\x7d\nconst fn: for = 0;\n\x7d\n\x7d\nstruct for \x7b\nfn: for,\n\x7d" ∧
      Item.allSymbols {} 1 program =
        [symbol "fn" .method "for" 2, symbol "fn" .function "fn" 3,
          symbol "fn" .constant "fn" 5 "for",
         symbol "for" .classType "global" 8 "struct", symbol "fn" .property "for" 9 "for"] := by
  decide

end Symtab.RustTree
