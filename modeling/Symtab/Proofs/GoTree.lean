import Symtab.Proofs.GoLines

/-!
# Go programs as trees

Declarations, groups of them and functions, printed with one construct a line. A scan of the printed
program finds what a walk over the tree finds. A group gives the lines in it their meaning, and no
group is in force between two items.
-/

set_option autoImplicit false

namespace Symtab.GoTree

open Rules.Go

/-!
## Trees
-/

/-- A name and its type. -/
structure Spec where
  name : DeclaredName
  type : AsciiWord

/-- The path of an import, as its segments. -/
structure ImportPath where
  leading : List AsciiWord
  last : AsciiWord

inductive ValueKind where
  | constant
  | plainVariable

/-- The first line of a function. -/
inductive Header where
  | function (name : AsciiWord)
  /-- `func (receiver *owner) name() {` -/
  | method (receiver owner name : AsciiWord)

inductive Item where
  /-- `name := 0` -/
  | short (name : DeclaredName)
  /-- `const name type = 0` and `var name type = 0` -/
  | value (kind : ValueKind) (spec : Spec)
  | valueGroup (kind : ValueKind) (specs : List Spec)
  | importGroup (paths : List ImportPath)
  | struct (name : AsciiWord) (fields : List Spec)
  | function (header : Header) (body : List Item)

def ValueKind.keyword : ValueKind → AsciiWord
  | .constant => constWord
  | .plainVariable => varWord

def ValueKind.group : ValueKind → DeclarationGroup
  | .constant => .constants
  | .plainVariable => .plainVariables

def Spec.line (spec : Spec) : List Char :=
  specLine spec.name.toAsciiWord spec.type

def Spec.fieldLine (spec : Spec) : List Char :=
  Rules.Go.fieldLine spec.name.toAsciiWord spec.type

def ImportPath.line (path : ImportPath) : List Char :=
  pathLine path.leading path.last

def Header.line : Header → List Char
  | .function name => functionLine name
  | .method receiver owner name => methodLine receiver owner name

def groupLines (group : DeclarationGroup) (body : List (List Char)) : List (List Char) :=
  groupLine group :: (body ++ [[')']])

mutual

/-- The lines of an item, a body closed by a brace and a group by a parenthesis on its own line. -/
def Item.lines : Item → List (List Char)
  | .short name => [shortLine name.toAsciiWord]
  | .value kind spec => [kind.keyword.text ++ ' ' :: spec.line]
  | .valueGroup kind specs => groupLines kind.group (specs.map Spec.line)
  | .importGroup paths => groupLines .imports (paths.map ImportPath.line)
  | .struct name fields => structLine name :: (fields.map Spec.fieldLine ++ [['}']])
  | .function header body => header.line :: (Item.allLines body ++ [['}']])

def Item.allLines : List Item → List (List Char)
  | [] => []
  | item :: rest => item.lines ++ Item.allLines rest

end

/-- The text of a program. -/
def print (program : List Item) : String :=
  String.ofList (Text.joinLines (Item.allLines program))

/-!
## The walk
-/

def symbol (name : String) (kind : Kind) (scope : String) (line : Nat)
    (dataType : Option String := none) (description : Option String := none) : Symbol :=
  { name, kind, scope, line, language := .go, dataType, description }

def ValueKind.kind : ValueKind → Kind
  | .constant => .constant
  | .plainVariable => .variable

def Spec.symbol (spec : Spec) (kind : Kind) (scope : String) (number : Nat) : Symbol :=
  GoTree.symbol spec.name.name kind scope number spec.type.name

/-- The symbols of specs that stand one a line. -/
def specSymbols (kind : Kind) (scope : String) (number : Nat) (specs : List Spec) : List Symbol :=
  (specs.zipIdx number).map fun (spec, line) => spec.symbol kind scope line

/-- The symbols of paths that stand one a line. -/
def importSymbols (number : Nat) (paths : List ImportPath) : List Symbol :=
  (paths.zipIdx number).map fun (path, line) =>
    symbol path.last.name .imported "global" line "package"

def Header.name : Header → AsciiWord
  | .function name => name
  | .method _ _ name => name

def Header.symbol (scope : String) (number : Nat) : Header → Symbol
  | .function name => GoTree.symbol name.name .function scope number
  | .method _ owner name => GoTree.symbol name.name .method owner.name number

mutual

/-- The symbols of an item whose first line has the given number. -/
def Item.symbols (scope : String) (number : Nat) : Item → List Symbol
  | .short name => [symbol name.name .variable scope number]
  | .value kind spec => [spec.symbol kind.kind scope number]
  | .valueGroup kind specs => specSymbols kind.kind scope (number + 1) specs
  | .importGroup paths => importSymbols (number + 1) paths
  | .struct name fields =>
    symbol name.name .classType scope number "struct" "Struct type" ::
      specSymbols .property name.name (number + 1) fields
  | .function header body =>
    header.symbol scope number :: Item.allSymbols header.name.name (number + 1) body

def Item.allSymbols (scope : String) (number : Nat) : List Item → List Symbol
  | [] => []
  | item :: rest =>
    item.symbols scope number ++ Item.allSymbols scope (number + item.lines.length) rest

end

/-!
## Scanning a tree
-/

section Lines

theorem Spec.isPrintedLine (spec : Spec) : IsPrintedLine .go spec.line := by
  have notBlank : Text.isBlank '0' = false := by decide
  refine spec.name.isPrintedLine_append rfl ?_ ?_
  · simp [spec.type.not_mem (c := '\n') (by decide)]
  · simp [List.getLast?_cons, List.getLast?_append, notBlank]

theorem Spec.isPrintedLine_field (spec : Spec) : IsPrintedLine .go spec.fieldLine := by
  refine spec.name.isPrintedLine_append rfl ?_ ?_
  · simp [spec.type.not_mem (c := '\n') (by decide)]
  · obtain ⟨start, c, split⟩ :=
      (List.eq_nil_or_concat spec.type.text).resolve_left spec.type.nonempty
    have notBlank := spec.type.isBlank c (by rw [split]; simp)
    simp [split, List.getLast?_cons, notBlank]

theorem Spec.isPrintedLine_keyword (spec : Spec) (keyword : AsciiWord) :
    IsPrintedLine .go (keyword.text ++ ' ' :: spec.line) := by
  have notBlank : Text.isBlank '0' = false := by decide
  refine keyword.isPrintedLine_append rfl ?_ ?_
  · simp [line, specLine, AsciiWord.not_mem _ (c := '\n') (by decide)]
  · simp [line, specLine, List.getLast?_cons, List.getLast?_append, notBlank]

private theorem isPrintedLine_structLine (name : AsciiWord) :
    IsPrintedLine .go (structLine name) := by
  have notBlank : Text.isBlank '{' = false := by decide
  refine typeWord.isPrintedLine_append rfl ?_ ?_
  · simp [AsciiWord.not_mem _ (c := '\n') (by decide)]
  · simp [List.getLast?_cons, List.getLast?_append, notBlank]

theorem ImportPath.isPrintedLine (path : ImportPath) : IsPrintedLine .go path.line := by
  have notBlank : Text.isBlank '"' = false := by decide
  refine isPrintedLine_of_edges rfl
    (not_mem_pathLine path.leading path.last (by decide) (by decide)) rfl ?_
  simp [line, pathLine, List.getLast?_cons, notBlank]

theorem Header.isPrintedLine (header : Header) : IsPrintedLine .go header.line := by
  have notBlank : Text.isBlank '{' = false := by decide
  cases header with
  | function name | method receiver owner name =>
    refine funcWord.isPrintedLine_append rfl ?_ ?_
    · simp [AsciiWord.not_mem _ (c := '\n') (by decide)]
    · simp [List.getLast?_cons, List.getLast?_append, notBlank]

private theorem isPrintedLine_groupLines (group : DeclarationGroup) {body : List (List Char)}
    (inside : ∀ line ∈ body, IsPrintedLine .go line) :
    ∀ line ∈ groupLines group body, IsPrintedLine .go line := by
  rw [groupLines, List.forall_mem_cons, List.forall_mem_append, List.forall_mem_singleton]
  refine ⟨?_, inside, isPrintedLine_of_edges rfl (by decide) (by decide) (by decide)⟩
  cases group with
  | imports | constants | plainVariables =>
    exact isPrintedLine_of_edges rfl (by decide) (by decide) (by decide)

mutual

theorem Item.isPrintedLine (item : Item) : ∀ line ∈ item.lines, IsPrintedLine .go line := by
  cases item with
  | short name =>
    rw [Item.lines, List.forall_mem_singleton]
    exact name.isPrintedLine_append rfl (by decide) (by decide)
  | value kind spec =>
    rw [Item.lines, List.forall_mem_singleton]
    exact spec.isPrintedLine_keyword kind.keyword
  | valueGroup kind specs =>
    rw [Item.lines]
    exact isPrintedLine_groupLines kind.group
      (List.forall_mem_map.mpr fun spec _ => spec.isPrintedLine)
  | importGroup paths =>
    rw [Item.lines]
    exact isPrintedLine_groupLines .imports
      (List.forall_mem_map.mpr fun path _ => path.isPrintedLine)
  | struct name fields =>
    rw [Item.lines]
    exact isPrintedLine_block rfl (isPrintedLine_structLine name)
      (List.forall_mem_map.mpr fun field _ => field.isPrintedLine_field)
  | function header body =>
    rw [Item.lines]
    exact isPrintedLine_block rfl header.isPrintedLine (Item.allArePrintedLines body)

theorem Item.allArePrintedLines (items : List Item) :
    ∀ line ∈ Item.allLines items, IsPrintedLine .go line := by
  cases items with
  | nil => simp [Item.allLines]
  | cons item rest =>
    rw [Item.allLines, List.forall_mem_append]
    exact ⟨item.isPrintedLine, Item.allArePrintedLines rest⟩

end

end Lines

section Runs

open Context

variable {context : Context}

/-- The lines of a group add what they add while it is in force, and afterwards no group is. -/
theorem foldl_groupLines (outside : context.group = none) {group : DeclarationGroup} {number : Nat}
    {body : List (List Char)}
    {symbols : List Symbol}
    (inside : (numberFrom (number + 1) body).foldl (step .go) { context with group := some group } =
      { context with group := some group }.adding symbols) :
    (numberFrom number (groupLines group body)).foldl (step .go) context =
      context.adding symbols := by
  have entered :
      context.apply .go number { group := .enter (some group) } =
        { context with group := some group } := by
    simp [apply, GroupChange.after]
  have lines : numberFrom number (groupLines group body) =
      ⟨number, groupLine group⟩ ::
        (numberFrom (number + 1) body ++ [⟨number + 1 + body.length, [')']⟩]) := by
    simp [groupLines, numberFrom, List.zipIdx_append]
  have left :
      (adding { context with group := some group } symbols).step .go
        ⟨number + 1 + body.length, [')']⟩ = _ :=
    step_groupEnd rfl
  rw [lines, List.foldl_cons, step_groupStart outside, entered, List.foldl_append, inside,
    List.foldl_cons, List.foldl_nil, left]
  simp [apply, adding, GroupChange.after, outside]

private theorem foldl_specs {kind : Kind} (inside : groupKind? context.group = some kind)
    (specs : List Spec) (number : Nat) :
    (numberFrom number (specs.map Spec.line)).foldl (step .go) context =
      context.adding (specSymbols kind context.scopes.current number specs) := by
  refine foldl_step_each (fun later => groupKind? later.group = some kind ∧
    later.scopes.current = context.scopes.current)
    (fun _ _ holds => holds) ?_ specs number context ⟨inside, rfl⟩
  rintro spec number later ⟨stillInside, same⟩
  have declared : later.step .go ⟨number, spec.line⟩ = _ :=
    step_spec stillInside spec.name spec.type
  rw [same] at declared
  exact declared

private theorem foldl_paths (inside : context.group = some .imports) (paths : List ImportPath)
    (number : Nat) :
    (numberFrom number (paths.map ImportPath.line)).foldl (step .go) context =
      context.adding (importSymbols number paths) := by
  refine foldl_step_each (fun later => later.group = some .imports) (fun _ _ same => same) ?_ paths
    number context inside
  intro path number later stillInside
  exact step_path stillInside path.leading path.last

/-- In the body of a type, each spec is a property of it. -/
theorem foldl_fields (outside : context.group = none)
    (inside : context.scopes.currentKind = .classType) {owner : String}
    (owned : context.scopes.owner = owner) (fields : List Spec) (number : Nat) :
    (numberFrom number (fields.map Spec.fieldLine)).foldl (step .go) context =
      context.adding (specSymbols .property owner number fields) := by
  refine foldl_step_each
    (fun later => later.group = none ∧ later.scopes.currentKind = .classType ∧
      later.scopes.owner = owner)
    (fun _ _ holds => holds) ?_ fields number context ⟨outside, inside, owned⟩
  rintro field number later ⟨stillOutside, stillInside, stillOwned⟩
  have declared : later.step .go ⟨number, field.fieldLine⟩ = _ :=
    step_field stillOutside stillInside field.name field.type
  rw [stillOwned] at declared
  exact declared

theorem Header.step_line (outside : context.group = none) (header : Header) (number : Nat) :
    ∃ declarations, declarations.map (·.toSymbol .go number) =
      [header.symbol context.scopes.current number] ∧
      context.step .go ⟨number, header.line⟩ =
        context.apply .go number { declarations, opens := [⟨header.name.name, .function⟩] } := by
  cases header with
  | function name => exact ⟨_, rfl, step_function outside name⟩
  | method receiver owner name => exact ⟨_, rfl, step_method outside receiver owner name⟩

mutual

theorem Item.foldl_lines (item : Item) (number : Nat) (context : Context)
    (outside : context.group = none) :
    (numberFrom number item.lines).foldl (step .go) context =
      context.adding (item.symbols context.scopes.current number) := by
  cases item with
  | short name => exact step_short outside name
  | value kind spec =>
    cases kind with
    | constant => exact step_constant outside spec.name.toAsciiWord spec.type
    | plainVariable => exact step_variable outside spec.name spec.type
  | valueGroup kind specs =>
    cases kind with
    | constant | plainVariable =>
      exact foldl_groupLines outside (foldl_specs rfl specs (number + 1))
  | importGroup paths => exact foldl_groupLines outside (foldl_paths rfl paths (number + 1))
  | struct name fields =>
    refine foldl_step_block (step_struct outside name) ?_
    refine foldl_fields ?_ rfl rfl fields (number + 1)
    exact outside
  | function header body =>
    obtain ⟨declarations, reported, opens⟩ := header.step_line outside number
    refine (foldl_step_block opens (Item.foldl_allLines body (number + 1) _ outside)).trans ?_
    rw [reported]
    rfl

theorem Item.foldl_allLines (items : List Item) (number : Nat) (context : Context)
    (outside : context.group = none) :
    (numberFrom number (Item.allLines items)).foldl (step .go) context =
      context.adding (Item.allSymbols context.scopes.current number items) := by
  cases items with
  | nil => exact (adding_nil context).symm
  | cons item rest =>
    rw [Item.allLines, Item.allSymbols]
    exact foldl_step_append (item.foldl_lines number context outside)
      (Item.foldl_allLines rest (number + item.lines.length) _ outside)

end

end Runs

/-- A scan of a printed program reports what a walk over its items finds, the first of each
declaration. -/
theorem scan_print_file (program : List Item) :
    scan .go (print program) = dedup (Item.allSymbols "global" 1 program) := by
  have lines := significantLines_joinLines (Item.allArePrintedLines program)
  have run := Item.foldl_allLines program 1 Context.initial rfl
  rw [scan, print, String.toList_ofList, lines, Context.run, run]
  rfl

/-- A method is scoped by its receiver, what its body declares by its name, and an import by
neither. -/
example :
    let a : DeclaredName := ⟨⟨"a".toList, by decide, by decide⟩, by decide, by decide⟩
    let b : AsciiWord := ⟨"b".toList, by decide, by decide⟩
    let program := [
      Item.importGroup [⟨[b, b], a.toAsciiWord⟩],
      .function (.method b b a.toAsciiWord) [.valueGroup .constant [⟨a, b⟩], .struct b [⟨a, b⟩]],
      .short a]
    Item.allLines program =
        ["import (", "\"b/b/a\"", ")", "func (b *b) a() \x7b", "const (", "a b = 0", ")",
          "type b struct \x7b", "a b",
         "\x7d", "\x7d", "a := 0"].map (·.toList) ∧
      Item.allSymbols "global" 1 program =
        [symbol "a" .imported "global" 2 "package", symbol "a" .method "b" 4,
          symbol "a" .constant "a" 6 "b",
         symbol "b" .classType "a" 8 "struct" "Struct type", symbol "a" .property "b" 9 "b",
         symbol "a" .variable "global" 12] := by
  decide

end Symtab.GoTree
