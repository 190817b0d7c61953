import Mathlib.Data.List.Infix
import Symtab.Proofs.RustLines

/-!
# Declared types

Types as they are written in a declaration, and what is reported of them. A constant is reported
with its whole type. The type of a local variable is cut at its first semicolon, and so is the type
after the arrow of a function, which is also cut where a word that starts like `where` follows a
space. So the types of variables and functions are reported in full exactly where there is no array
in them and, for functions, no such word.
-/

set_option autoImplicit false

namespace Symtab.Rules.Rust

open Pattern

/-!
## Types
-/

inductive TypeExpr where
  /-- `a` or `a::b` -/
  | named (path : WordPath)
  /-- `&a` -/
  | reference (target : TypeExpr)
  /-- `a<b, c>` -/
  | generic (head : WordPath) (arguments : List TypeExpr)
  /-- `()`, `(a,)` or `(a, b)` -/
  | tuple (members : List TypeExpr)
  /-- `[a]` -/
  | slice (element : TypeExpr)
  /-- `[a; b]` -/
  | array (element : TypeExpr) (length : Word)

namespace TypeExpr

/-- The comma by which a tuple of one differs from a type in parentheses. -/
def tupleComma : List TypeExpr → List Char
  | [_] => [',']
  | _ => []

mutual

/-- A type as it is written. -/
def text : TypeExpr → List Char
  | .named path => path.text
  | .reference target => '&' :: target.text
  | .generic head arguments => head.text ++ '<' :: (allText arguments ++ ['>'])
  | .tuple members => '(' :: (allText members ++ (tupleComma members ++ [')']))
  | .slice element => '[' :: (element.text ++ [']'])
  | .array element length => '[' :: (element.text ++ ';' :: ' ' :: (length.text ++ [']']))

/-- Types with commas between them. -/
def allText : List TypeExpr → List Char
  | [] => []
  | [type] => type.text
  | type :: next :: rest => type.text ++ ',' :: ' ' :: allText (next :: rest)

end

mutual

/-- Whether there is an array in a type. -/
def hasArray : TypeExpr → Bool
  | .named _ => false
  | .reference target => target.hasArray
  | .generic _ arguments => anyHasArray arguments
  | .tuple members => anyHasArray members
  | .slice element => element.hasArray
  | .array _ _ => true

def anyHasArray : List TypeExpr → Bool
  | [] => false
  | type :: rest => type.hasArray || anyHasArray rest

end

/-- The signs that stand in types. -/
def signs : List Char :=
  [':', '&', '<', '>', '(', ')', '[', ']', ',', ';', ' ']

private theorem mem_tupleComma {members : List TypeExpr} {c : Char}
    (member : c ∈ tupleComma members) : c = ',' := by
  unfold tupleComma at member
  split at member
  · exact List.mem_singleton.mp member
  · cases member

private theorem wordOr_of_isWord {c : Char} (word : Text.isWord c = true) :
    wordOr signs c = true := by
  simp [wordOr, word]

private theorem wordOr_path (path : WordPath) : ∀ c ∈ path.text, wordOr signs c = true := by
  intro c member
  rcases path.isWord_or_colon c member with word | rfl
  · exact wordOr_of_isWord word
  · rfl

mutual

theorem wordOr_text : ∀ type : TypeExpr, ∀ c ∈ type.text, wordOr signs c = true
  | .named path => wordOr_path path
  | .reference target => by
    rw [text, List.forall_mem_cons]
    exact ⟨rfl, wordOr_text target⟩
  | .generic head arguments => by
    rw [text, List.forall_mem_append, List.forall_mem_cons, List.forall_mem_append,
      List.forall_mem_singleton]
    exact ⟨wordOr_path head, rfl, wordOr_allText arguments, rfl⟩
  | .tuple members => by
    rw [text, List.forall_mem_cons, List.forall_mem_append, List.forall_mem_append,
      List.forall_mem_singleton]
    exact ⟨rfl, wordOr_allText members, fun c member => by rw [mem_tupleComma member]; rfl, rfl⟩
  | .slice element => by
    rw [text, List.forall_mem_cons, List.forall_mem_append, List.forall_mem_singleton]
    exact ⟨rfl, wordOr_text element, rfl⟩
  | .array element length => by
    rw [text, List.forall_mem_cons, List.forall_mem_append, List.forall_mem_cons,
      List.forall_mem_cons, List.forall_mem_append, List.forall_mem_singleton]
    exact ⟨rfl, wordOr_text element, rfl, rfl, fun c member =>
      wordOr_of_isWord (length.isWord c member), rfl⟩

private theorem wordOr_allText : ∀ types : List TypeExpr, ∀ c ∈ allText types, wordOr signs c = true
  | [] => fun c member => nomatch member
  | [type] => wordOr_text type
  | type :: next :: rest => by
    rw [allText, List.forall_mem_append, List.forall_mem_cons, List.forall_mem_cons]
    exact ⟨wordOr_text type, rfl, rfl, wordOr_allText (next :: rest)⟩

end

theorem not_mem_text (type : TypeExpr) {c : Char} (outside : wordOr signs c = false) :
    c ∉ type.text := by
  intro member
  rw [type.wordOr_text c member] at outside
  cases outside

private theorem semicolon_not_mem_path (path : WordPath) : ';' ∉ path.text :=
  path.not_mem_text (by decide) (by decide)

mutual

/-- Only arrays have semicolons. -/
theorem semicolon_mem_text : ∀ type : TypeExpr, ';' ∈ type.text ↔ type.hasArray = true
  | .named path => by
    simp [text, hasArray, semicolon_not_mem_path path]
  | .reference target => by
    simpa [text, hasArray] using semicolon_mem_text target
  | .generic head arguments => by
    simpa [text, hasArray, semicolon_not_mem_path head] using semicolon_mem_allText arguments
  | .tuple members => by
    have noComma : ';' ∉ tupleComma members :=
      fun member => absurd (mem_tupleComma member) (by decide)
    simpa [text, hasArray, noComma] using semicolon_mem_allText members
  | .slice element => by
    simpa [text, hasArray] using semicolon_mem_text element
  | .array element length => by
    simp [text, hasArray]

private theorem semicolon_mem_allText :
    ∀ types : List TypeExpr, ';' ∈ allText types ↔ anyHasArray types = true
  | [] => by simp [allText, anyHasArray]
  | [type] => by
    simpa [allText, anyHasArray] using semicolon_mem_text type
  | type :: next :: rest => by
    have first := semicolon_mem_text type
    have others := semicolon_mem_allText (next :: rest)
    rw [anyHasArray, Bool.or_eq_true, ← first, ← others]
    simp [allText]

end

/-- A type starts with a word or a sign that opens it. -/
theorem exists_first :
    ∀ type : TypeExpr, ∃ c rest, type.text = c :: rest ∧ wordOr ['&', '(', '['] c = true
  | .named path => by
    obtain ⟨c, rest, split, word⟩ := path.exists_cons
    exact ⟨c, rest, split, by simp [wordOr, word]⟩
  | .reference target => ⟨_, _, rfl, rfl⟩
  | .generic head arguments => by
    obtain ⟨c, rest, split, word⟩ := head.exists_cons
    exact ⟨c, _, by rw [text, split]; rfl, by simp [wordOr, word]⟩
  | .tuple members => ⟨_, _, rfl, rfl⟩
  | .slice element => ⟨_, _, rfl, rfl⟩
  | .array element length => ⟨_, _, rfl, rfl⟩

/-- A type ends with a word or a sign that closes it. -/
theorem exists_last :
    ∀ type : TypeExpr, ∃ start c, type.text = start ++ [c] ∧ wordOr ['>', ')', ']'] c = true
  | .named path => by
    obtain ⟨start, c, spelled⟩ := (List.eq_nil_or_concat path.text).resolve_left path.text_ne_nil
    have word := path.isWord_getLast? c (by simp [spelled])
    exact ⟨start, c, by rw [text, spelled, List.concat_eq_append], by simp [wordOr, word]⟩
  | .reference target => by
    obtain ⟨start, c, split, closes⟩ := target.exists_last
    exact ⟨'&' :: start, c, by rw [text, split]; rfl, closes⟩
  | .generic head arguments => ⟨head.text ++ '<' :: allText arguments, '>', by simp [text], rfl⟩
  | .tuple members => ⟨'(' :: (allText members ++ tupleComma members), ')', by simp [text], rfl⟩
  | .slice element => ⟨'[' :: element.text, ']', by simp [text], rfl⟩
  | .array element length =>
    ⟨'[' :: (element.text ++ ';' :: ' ' :: length.text), ']', by simp [text], rfl⟩

theorem isTypeText (type : TypeExpr) : IsTypeText type.text := by
  obtain ⟨c, rest, leads, opens⟩ := type.exists_first
  obtain ⟨start, d, ends, closes⟩ := type.exists_last
  refine ⟨by rw [leads]; exact List.cons_ne_nil c rest, ?_, ?_, type.not_mem_text (by decide)⟩
  · rw [leads]
    rintro _ ⟨⟩
    exact isBlank_of_wordOr (by decide) opens
  · rw [ends, List.getLast?_concat]
    rintro _ ⟨⟩
    exact isBlank_of_wordOr (by decide) closes

end TypeExpr

/-!
## Declarations
-/

/-- A name that a variable can have: `_` discards the value. -/
structure BoundWord extends Word where
  notDiscard : text ≠ ['_']

/-- A declaration in which a type is written. -/
inductive TypedForm where
  | letVariable
  | constant
  | static
  | function

namespace TypedForm

/-- What stands before the name. -/
def start : TypedForm → String
  | .letVariable => "let "
  | .constant => "const "
  | .static => "static "
  | .function => "fn "

/-- What stands between the name and the type. -/
def middle : TypedForm → String
  | .letVariable | .constant | .static => ": "
  | .function => "() -> "

/-- What stands behind the type. -/
def finish : TypedForm → String
  | .letVariable | .constant | .static => " = 0;"
  | .function => " \x7b"

def line (form : TypedForm) (name : BoundWord) (type : TypeExpr) : List Char :=
  form.start.toList ++ (name.text ++ (form.middle.toList ++ (type.text ++ form.finish.toList)))

/-- The kind of what is declared, in the given scopes. -/
def kind (scopes : ScopeStack) : TypedForm → Kind
  | .letVariable => .variable
  | .constant | .static => .constant
  | .function => if scopes.currentKind = .implementation then .method else .function

/-- The part of the type that is reported, with blanks around it. -/
def reported : TypedForm → List Char → List Char
  | .letVariable, type => type.takeWhile (· != ';')
  | .constant, type | .static, type => type
  | .function, type => (Text.before " where".toList (' ' :: type)).takeWhile (· != ';')

/-- The type that is reported, if there is anything left of it. -/
def dataType? (form : TypedForm) (type : TypeExpr) : Option String :=
  if Text.trim (form.reported type.text) = [] then none
  else some (String.ofList (Text.trim (form.reported type.text)))

def declaration (form : TypedForm) (scopes : ScopeStack) (name : BoundWord) (type : TypeExpr) :
    Declaration where
  name := name.name
  kind := form.kind scopes
  scope := scopes.current
  dataType := form.dataType? type

/-- Only a function has a body. -/
def opens : TypedForm → BoundWord → List Scope
  | .letVariable, _ | .constant, _ | .static, _ => []
  | .function, name => [⟨name.name, .function⟩]

/-- The types that are reported in full. -/
def ReportsAll (type : TypeExpr) : TypedForm → Prop
  | .constant | .static => True
  | .letVariable => type.hasArray = false
  | .function => type.hasArray = false ∧ ¬" where".toList <:+: ' ' :: type.text

end TypedForm

/-!
## What is reported of a type
-/

private theorem cleanName?_of_noQuote {text : List Char} (noQuote : ∀ c ∈ text, isQuote c = false) :
    cleanName? text =
      if Text.trim text = [] then none else some (String.ofList (Text.trim text)) := by
  have unquoted : Text.strip isQuote (Text.trim text) = Text.trim text :=
    Text.strip_of_outside fun c member => noQuote c ((Text.trim_isInfix text).subset member)
  have again : Text.trim (Text.trim text) = Text.trim text := Text.strip_strip Text.isBlank text
  rw [cleanName?, unquoted, again]
  cases trimmed : Text.trim text with
  | nil => rfl
  | cons c rest => rfl

theorem TypeExpr.noQuote (type : TypeExpr) : ∀ c ∈ type.text, isQuote c = false :=
  fun c member => isQuote_of_wordOr (by decide) (type.wordOr_text c member)

theorem TypeExpr.trim_text (type : TypeExpr) : Text.trim type.text = type.text :=
  Text.strip_eq_self type.isTypeText.first type.isTypeText.last

section Variables

variable (type : TypeExpr)

private theorem exists_upToSemicolon :
    ∃ c rest, type.text.takeWhile (· != ';') = c :: rest ∧ Text.isBlank c = false := by
  obtain ⟨c, rest, leads, opens⟩ := type.exists_first
  have notEnd : c ≠ ';' := by
    rintro rfl
    exact absurd opens (by decide)
  exact ⟨c, rest.takeWhile (· != ';'), by simp [leads, notEnd], isBlank_of_wordOr (by decide) opens⟩

/-- Up to its first semicolon, a type is still a type in form. -/
theorem isTypeText_upToSemicolon : IsTypeText (Text.trim (type.text.takeWhile (· != ';'))) := by
  obtain ⟨c, rest, split, visible⟩ := exists_upToSemicolon type
  refine ⟨Text.strip_ne_nil (by rw [split]; exact List.mem_cons_self) visible, Text.head?_strip _ _,
    Text.getLast?_strip _ _, ?_⟩
  intro member
  exact type.isTypeText.unassigned
    ((List.takeWhile_prefix _).subset ((Text.trim_isInfix _).subset member))

/-- What is reported of the type of a variable ends before its first semicolon or, without one,
before the assignment. -/
theorem exists_reported_variable :
    ∃ gap c rest, type.text ++ " = 0;".toList =
      Text.trim (TypedForm.letVariable.reported type.text) ++ (gap ++ c :: rest) ∧
      (∀ d ∈ gap, Text.isBlank d = true) ∧ c ∈ ['=', ';'] := by
  obtain ⟨c, rest, split, visible⟩ := exists_upToSemicolon type
  have unled : ∀ d ∈ (type.text.takeWhile (· != ';')).head?, Text.isBlank d = false := by
    rw [split]
    rintro _ ⟨⟩
    exact visible
  obtain ⟨run, trimmed, blankRun⟩ :=
    Text.exists_stripEnd_append Text.isBlank (type.text.takeWhile (· != ';'))
  have part :
      Text.trim (type.text.takeWhile (· != ';')) =
        Text.stripEnd Text.isBlank (type.text.takeWhile (· != ';')) := by
    rw [Text.trim, Text.strip, Text.dropWhile_of_head? unled]
  rw [← part] at trimmed
  have whole :
      type.text = Text.trim (type.text.takeWhile (· != ';')) ++
        (run ++ type.text.dropWhile (· != ';')) := by
    rw [← List.append_assoc, ← trimmed, List.takeWhile_append_dropWhile]
  cases behind : type.text.dropWhile (· != ';') with
  | nil =>
    refine ⟨run ++ [' '], '=', " 0;".toList, ?_, ?_, .head _⟩
    · rw [behind, List.append_nil] at whole
      have assigned := congrArg (· ++ " = 0;".toList) whole
      simpa [TypedForm.reported] using assigned
    · rw [List.forall_mem_append]
      exact ⟨blankRun, Text.isBlank_space⟩
  | cons d more =>
    have stopped := List.head?_dropWhile_not (· != ';') type.text
    have isEnd : d = ';' := by simpa [behind] using stopped
    refine ⟨run, ';', more ++ " = 0;".toList, ?_, blankRun, .tail _ (.head _)⟩
    rw [behind, isEnd] at whole
    have assigned := congrArg (· ++ " = 0;".toList) whole
    simpa [TypedForm.reported] using assigned

end Variables

section Functions

variable (type : TypeExpr)

/-- Where nothing ends a type before the brace behind it, nothing does in the type itself. -/
theorem before_where_brace :
    Text.before " where".toList (' ' :: type.text ++ " \x7b".toList) =
      if " where".toList <:+: ' ' :: type.text then Text.before " where".toList (' ' :: type.text)
      else ' ' :: type.text ++ " \x7b".toList := by
  have nonempty : " where".toList ≠ [] := by decide
  split
  · next present => exact Text.before_append_of_infix nonempty present _
  · next absent =>
    refine Text.before_of_not_infix nonempty fun present => ?_
    have lastLetter :
        ∀ {text : List Char} {c : Char}, " where".toList <:+ text ++ [c] → c = 'e' := by
      rintro text c ⟨start, whole⟩
      simpa using (congrArg List.getLast? whole).symm
    have spelled : ' ' :: type.text ++ " \x7b".toList = ' ' :: type.text ++ [' '] ++ ['{'] := by
      simp
    rw [spelled, List.infix_concat_iff, List.infix_concat_iff] at present
    rcases present with atBrace | atSpace | inside
    · exact absurd (lastLetter atBrace) (by decide)
    · exact absurd (lastLetter atSpace) (by decide)
    · exact absent inside

/-- A brace that does not stand in a text does not end it before the semicolon does. -/
theorem takeWhile_brace_semicolon {text : List Char} (noBrace : '{' ∉ text) :
    text.takeWhile (fun c => c != '{' && c != ';') = text.takeWhile (· != ';') := by
  induction text with
  | nil => rfl
  | cons c rest ih =>
    obtain ⟨different, noneBelow⟩ := List.ne_and_not_mem_of_not_mem_cons noBrace
    by_cases isEnd : c = ';'
    · simp [isEnd]
    · simp [isEnd, Ne.symm different, ih noneBelow]

private theorem trim_takeWhile_brace {text : List Char} (noBrace : '{' ∉ text) :
    Text.trim ((text ++ " \x7b".toList).takeWhile fun c => c != '{' && c != ';') =
      Text.trim (text.takeWhile (· != ';')) := by
  rw [List.takeWhile_append, takeWhile_brace_semicolon noBrace]
  split
  · next whole =>
    have all : text.takeWhile (· != ';') = text := (List.takeWhile_prefix _).eq_of_length whole
    rw [all]
    exact Text.strip_append_right Text.isBlank_space text
  · rfl

private theorem trim_upTo :
    Text.trim ((Text.before " where".toList (' ' :: type.text ++ " \x7b".toList)).takeWhile fun c =>
      c != '{' && c != ';') =
      Text.trim (TypedForm.function.reported type.text) := by
  have noBrace : '{' ∉ ' ' :: type.text :=
    List.not_mem_cons_of_ne_of_not_mem (by decide) (type.not_mem_text (by decide))
  rw [before_where_brace, TypedForm.reported]
  split
  · next present =>
    rw [takeWhile_brace_semicolon fun member => noBrace ((Text.before_isPrefix _ _).subset member)]
  · next absent =>
    rw [trim_takeWhile_brace noBrace, Text.before_of_not_infix (by decide) absent]

private theorem returnType?_function (name : BoundWord) :
    (returnType? (TypedForm.function.line name type)).bind cleanName? =
      TypedForm.function.dataType? type := by
  have noDash : '-' ∉ "fn ".toList ++ (name.text ++ "() ".toList) := by
    simp [name.not_mem (c := '-') (by decide)]
  have arrow : Text.cut? "->".toList (TypedForm.function.line name type) =
      some ("fn ".toList ++ (name.text ++ "() ".toList), ' ' :: type.text ++ " \x7b".toList) := by
    have cut := Text.cut?_append_needle noDash ['>'] (' ' :: type.text ++ " \x7b".toList)
    have needle : "->".toList = '-' :: ['>'] := rfl
    have spelled : TypedForm.function.line name type =
        "fn ".toList ++ (name.text ++ "() ".toList) ++
          ('-' :: ['>'] ++ (' ' :: type.text ++ " \x7b".toList)) := by
      rw [List.append_assoc, List.append_assoc]
      rfl
    rw [spelled, needle, cut]
  have noQuote : ∀ c ∈ Text.trim (TypedForm.function.reported type.text), isQuote c = false := by
    intro c member
    have inSpaced : c ∈ ' ' :: type.text :=
      (Text.before_isPrefix _ _).subset
        ((List.takeWhile_prefix _).subset ((Text.trim_isInfix _).subset member))
    rcases List.mem_cons.mp inSpaced with rfl | inType
    · rfl
    · exact type.noQuote c inType
  have again :
      Text.trim (Text.trim (TypedForm.function.reported type.text)) =
        Text.trim (TypedForm.function.reported type.text) :=
    Text.strip_strip Text.isBlank _
  rw [returnType?, arrow, Option.bind_eq_bind, Option.bind_some]
  dsimp only
  rw [trim_upTo, TypedForm.dataType?]
  by_cases empty : Text.trim (TypedForm.function.reported type.text) = []
  · simp [empty]
  · have kept : ¬(Text.trim (TypedForm.function.reported type.text)).isEmpty = true := by
      simpa using empty
    rw [if_neg kept, if_neg empty, Option.pure_def, Option.bind_some, cleanName?_of_noQuote noQuote,
      again, if_neg empty]

end Functions

/-!
## Steps
-/

theorem TypedForm.dataType?_of_trim (form : TypedForm) {type : TypeExpr} {part : List Char}
    (isType : IsTypeText part) (noQuote : ∀ c ∈ part, isQuote c = false)
    (trimmed : Text.trim (form.reported type.text) = part) :
    cleanName? part = form.dataType? type := by
  have whole : Text.trim part = part := Text.strip_eq_self isType.first isType.last
  rw [cleanName?_of_noQuote noQuote, whole, TypedForm.dataType?, trimmed]

section Steps

variable (name : BoundWord) (type : TypeExpr) (number : Nat) (context : Context)

theorem TypedForm.not_mem_line (form : TypedForm) {c : Char} (inStart : c ∉ form.start.toList)
    (inMiddle : c ∉ form.middle.toList) (inFinish : c ∉ form.finish.toList)
    (outside : wordOr TypeExpr.signs c = false) : c ∉ form.line name type := by
  have notWord : Text.isWord c = false := by
    rw [wordOr, Bool.or_eq_false_iff] at outside
    exact outside.1
  intro member
  rw [TypedForm.line, List.mem_append, List.mem_append, List.mem_append, List.mem_append] at member
  rcases member with atStart | inName | between | inType | atEnd
  · exact inStart atStart
  · exact name.not_mem notWord inName
  · exact inMiddle between
  · exact type.not_mem_text outside inType
  · exact inFinish atEnd

theorem TypedForm.noClosing (form : TypedForm) : '}' ∉ form.line name type := by
  cases form with
  | letVariable =>
    exact TypedForm.not_mem_line name type .letVariable (by decide) (by decide) (by decide)
      (by decide)
  | constant =>
    exact TypedForm.not_mem_line name type .constant (by decide) (by decide) (by decide) (by decide)
  | static =>
    exact TypedForm.not_mem_line name type .static (by decide) (by decide) (by decide) (by decide)
  | function =>
    exact TypedForm.not_mem_line name type .function (by decide) (by decide) (by decide) (by decide)

private theorem step_typed_variable :
    context.step .rust ⟨number, TypedForm.letVariable.line name type⟩ =
      context.apply .rust number { declarations :=
        [TypedForm.letVariable.declaration context.scopes name type] } := by
  obtain ⟨gap, c, rest, split, blankGap, ends⟩ := exists_reported_variable type
  have isType : IsTypeText (Text.trim (TypedForm.letVariable.reported type.text)) :=
    isTypeText_upToSemicolon type
  have inType : ∀ c ∈ Text.trim (TypedForm.letVariable.reported type.text), c ∈ type.text :=
    fun c member => (List.takeWhile_prefix _).subset ((Text.trim_isInfix _).subset member)
  have unended : ';' ∉ Text.trim (TypedForm.letVariable.reported type.text) := by
    intro member
    have kept := List.mem_takeWhile_imp ((Text.trim_isInfix _).subset member)
    simp at kept
  have spelled : TypedForm.letVariable.line name type =
      "let".toList ++ ' ' :: (name.text ++ ':' :: (' ' ::
        (Text.trim (TypedForm.letVariable.reported type.text) ++ (gap ++ c :: rest)))) := by
    rw [← split]
    rfl
  have finds := plainVariables_finds name.toWord isType blankGap rest unended ends
  have noClosing := TypedForm.noClosing name type .letVariable
  rw [spelled] at noClosing ⊢
  refine step_of_finds 7 plainVariables (table.cascade.drop 8) rfl finds
    (find?_of_leadingLetter (c := 'l') (by decide) _) ?_ rfl
    noClosing
  change (if name.text = ['_'] then some Effect.nothing else
    some ({ declarations := (Declaration.of? context.scopes.current .variable name.text
      (some (Text.trim (TypedForm.letVariable.reported type.text)))).toList } : Effect)) = _
  rw [if_neg name.notDiscard, name.declaration_of?, Option.bind_some,
    TypedForm.dataType?_of_trim .letVariable isType
      (fun c member => type.noQuote c (inType c member)) rfl]
  rfl

/-- Constants differ in the rule that reads them alone. -/
theorem step_typed_constant :
    context.step .rust ⟨number, TypedForm.constant.line name type⟩ =
      context.apply .rust number { declarations :=
        [TypedForm.constant.declaration context.scopes name type] } := by
  have finds :
      constants.pattern.Finds (TypedForm.constant.line name type)
        [(.type, type.text), (.name, name.text)] :=
    constants_finds name.toWord type.isTypeText Text.isBlank_space " 0;".toList
  refine step_of_finds 10 constants (table.cascade.drop 11) rfl finds
    (find?_const name.toWord _) ?_ rfl
    (TypedForm.noClosing name type .constant)
  change some (Effect.ofDeclarations
    (Declaration.of? context.scopes.current .constant name.text (some type.text)).toList) = _
  rw [name.declaration_of?, Option.bind_some,
    TypedForm.dataType?_of_trim .constant type.isTypeText type.noQuote type.trim_text]
  rfl

private theorem step_typed_static :
    context.step .rust ⟨number, TypedForm.static.line name type⟩ =
      context.apply .rust number { declarations :=
        [TypedForm.static.declaration context.scopes name type] } := by
  have finds :
      statics.pattern.Finds (TypedForm.static.line name type)
        [(.type, type.text), (.name, name.text)] :=
    statics_finds name.toWord type.isTypeText Text.isBlank_space " 0;".toList
  refine step_of_finds 9 statics (table.cascade.drop 10) rfl finds (find?_static _) ?_ rfl
    (TypedForm.noClosing name type .static)
  change some (Effect.ofDeclarations
    (Declaration.of? context.scopes.current .constant name.text (some type.text)).toList) = _
  rw [name.declaration_of?, Option.bind_some,
    TypedForm.dataType?_of_trim .static type.isTypeText type.noQuote type.trim_text]
  rfl

private theorem step_typed_function :
    context.step .rust ⟨number, TypedForm.function.line name type⟩ =
      context.apply .rust number
        { declarations := [TypedForm.function.declaration context.scopes name type],
          opens := [⟨name.name, .function⟩] } := by
  have finds : function.pattern.Finds (TypedForm.function.line name type) [(.name, name.text)] :=
    function_finds name.toWord (stops_before (by decide) _)
  refine step_of_finds 1 function (table.cascade.drop 2) rfl finds
    (find?_of_leadingLetter (c := 'f') (by decide) _) ?_ rfl
    (TypedForm.noClosing name type .function)
  have isOpen : opensScope (TypedForm.function.line name type) = true := by
    have opened : 0 < (TypedForm.function.line name type).count '{' := by
      rw [List.count_pos_iff]
      simp [TypedForm.line, TypedForm.finish]
    have closed : (TypedForm.function.line name type).count '}' = 0 :=
      List.count_eq_zero.mpr (TypedForm.noClosing name type .function)
    rw [opensScope, opensBlock, closed, decide_eq_true opened, Bool.true_or]
  change some ({ declarations := (Declaration.of? context.scopes.current
                   (if context.scopes.currentKind = .implementation then .method
                     else .function) name.text
                   (returnType? (TypedForm.function.line name type))).toList
                 opens :=
                   Scope.openedIf (opensScope (TypedForm.function.line name type)) name.text
                     .function } : Effect) = _
  rw [name.declaration_of?, name.scope_openedIf isOpen, returnType?_function]
  rfl

private theorem step_typed (form : TypedForm) :
    context.step .rust ⟨number, form.line name type⟩ =
      context.apply .rust number
        { declarations := [form.declaration context.scopes name type],
          opens := form.opens name } := by
  cases form with
  | letVariable => exact step_typed_variable name type number context
  | constant => exact step_typed_constant name type number context
  | static => exact step_typed_static name type number context
  | function => exact step_typed_function name type number context

theorem TypedForm.isPrintedLine (form : TypedForm) : IsPrintedLine .rust (form.line name type) := by
  have last : form.finish.toList.getLast?.any (oneOf [';', ',', '{', '}']) := by
    cases form <;> decide
  refine isPrintedLine_of_ends rfl ?_ ?_ ?_
  · cases form <;> exact TypedForm.not_mem_line name type _ (by decide) (by decide) (by decide)
      (by decide)
  · cases form <;> rfl
  · simp only [TypedForm.line, ← List.append_assoc]
    exact any_getLast? last _

/-- A program of one such line declares one symbol. -/
theorem scan_typed (form : TypedForm) :
    scan .rust (String.ofList (form.line name type)) =
      [(form.declaration .empty name type).toSymbol .rust 1] := by
  have printed : ∀ line ∈ [form.line name type], IsPrintedLine .rust line := by
    simpa using form.isPrintedLine name type
  have lines := significantLines_joinLines printed
  have single : Text.joinLines [form.line name type] = form.line name type := by
    simp [Text.joinLines, List.intercalate]
  have run : Context.run .rust (numberFrom 1 [form.line name type]) =
      Context.initial.step .rust ⟨1, form.line name type⟩ := rfl
  rw [single] at lines
  rw [scan, String.toList_ofList, lines, run, step_typed]
  rfl

end Steps

/-!
## Types that are reported in full
-/

theorem TypedForm.dataType?_eq_some_iff {form : TypedForm} {type : TypeExpr} :
    form.dataType? type = some (String.ofList type.text) ↔
      Text.trim (form.reported type.text) = type.text := by
  rw [TypedForm.dataType?]
  constructor
  · intro same
    split at same
    · cases same
    · exact String.ofList_injective (Option.some.inj same)
  · intro same
    rw [same, if_neg type.isTypeText.nonempty]

private theorem takeWhile_of_hasArray {type : TypeExpr} (noArray : type.hasArray = false) :
    type.text.takeWhile (· != ';') = type.text := by
  have absent : ';' ∉ type.text := by
    rw [type.semicolon_mem_text, noArray]
    exact Bool.false_ne_true
  rw [List.takeWhile_eq_self_iff]
  intro c member
  simpa using fun same : c = ';' => absent (same ▸ member)

private theorem hasArray_of_trim_takeWhile {type : TypeExpr} {text : List Char}
    (same : Text.trim (text.takeWhile (· != ';')) = type.text) : type.hasArray = false := by
  rw [← Bool.not_eq_true, ← type.semicolon_mem_text, ← same]
  intro member
  have kept := List.mem_takeWhile_imp ((Text.trim_isInfix _).subset member)
  simp at kept

theorem TypedForm.dataType?_eq_iff (form : TypedForm) (type : TypeExpr) :
    form.dataType? type = some (String.ofList type.text) ↔ form.ReportsAll type := by
  rw [TypedForm.dataType?_eq_some_iff]
  cases form with
  | constant => exact iff_of_true type.trim_text trivial
  | static => exact iff_of_true type.trim_text trivial
  | letVariable =>
    refine ⟨hasArray_of_trim_takeWhile, fun noArray => ?_⟩
    rw [TypedForm.reported, takeWhile_of_hasArray noArray, type.trim_text]
  | function =>
    refine ⟨fun same => ⟨hasArray_of_trim_takeWhile same, fun present => ?_⟩,
      fun ⟨noArray, absent⟩ => ?_⟩
    · have shorter := Text.length_before_add (by decide) present
      have kept := (Text.trim_isInfix (TypedForm.function.reported type.text)).length_le
      have upTo :
          (TypedForm.function.reported type.text).length ≤
            (Text.before " where".toList (' ' :: type.text)).length :=
        (List.takeWhile_prefix _).length_le
      have six : " where".toList.length = 6 := rfl
      rw [same] at kept
      rw [List.length_cons, six] at shorter
      omega
    · rw [TypedForm.reported, Text.before_of_not_infix (by decide) absent,
        List.takeWhile_cons_of_pos (by decide), takeWhile_of_hasArray noArray]
      exact (Text.strip_append Text.isBlank_space type.text).trans type.trim_text

/-- Each declaration of a type declares one symbol. The type is reported in full in every constant,
in a variable exactly if there is no array in it, and after an arrow exactly if, besides, no word
that starts like `where` follows a space. -/
theorem declared_type_reported (form : TypedForm) (name : BoundWord) (type : TypeExpr) :
    (∀ (context : Context) (number : Nat),
      (context.step .rust ⟨number, form.line name type⟩).symbols =
        context.symbols ++ [(form.declaration context.scopes name type).toSymbol .rust number]) ∧
      scan .rust (String.ofList (form.line name type)) =
        [(form.declaration .empty name type).toSymbol .rust 1] ∧
      (form.dataType? type = some (String.ofList type.text) ↔ form.ReportsAll type) := by
  refine ⟨fun context number => ?_, scan_typed name type form, form.dataType?_eq_iff type⟩
  rw [step_typed name type number context form]
  rfl

/-- The type of an array is cut in a variable and after an arrow and whole in a constant, and a type
can be lost to its name. -/
theorem declared_type_cut :
    (scan .rust "let a: [u8; 4] = 0;").map Symbol.dataType = [some "[u8"] ∧
      (scan .rust "fn a() -> [u8; 4] \x7b").map Symbol.dataType = [some "[u8"] ∧
      (scan .rust "const a: [u8; 4] = 0;").map Symbol.dataType = [some "[u8; 4]"] ∧
      (scan .rust "fn a() -> wherever \x7b").map Symbol.dataType = [none] := by
  decide

end Symtab.Rules.Rust
