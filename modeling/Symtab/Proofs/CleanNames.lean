import Symtab.Proofs.Cleaning
import Symtab.Proofs.MemberLines
import Symtab.Proofs.WholeWords

/-!
# Names and types are clean

Names and types are cleaned before they are reported. What most rules cut out of a line has no
quotes, or has clean ends, so cleaning it leaves nothing to be cleaned. Only the imports of
JavaScript, Python, Go and Rust and the types of Rust take over almost any text, so that quotes can
be left at the ends of a name or a type if the line has white space between quotes.
-/

set_option autoImplicit false

namespace Symtab

/-!
## Texts without quotes
-/

private theorem unquoted_wordsWithout? {dropped : List String} {text kept : List Char}
    (unquoted : Unquoted text) (found : wordsWithout? dropped text = some kept) :
    Unquoted kept := by
  have inWords :
      ∀ word ∈ (Text.words text).filter fun word => !isAmong dropped word, ∀ c ∈ word,
        isQuote c = false := by
    intro word listed c member
    have split := (List.mem_filter.mp (List.mem_filter.mp listed).1).1
    exact unquoted c ((Text.infix_of_mem_splitOnP split).subset member)
  rw [wordsWithout?] at found
  split at found
  · cases found
  · cases found
    exact forall_mem_intercalate (by decide) inWords

namespace Pattern

private theorem within_word : word.Within (isQuote · = false) :=
  ⟨fun _ => isQuote_eq_false_of_isWord, fun _ => isQuote_eq_false_of_isWord⟩

private theorem within_many1_wordOr (signs : List Char) (plain : ∀ c ∈ signs, isQuote c = false) :
    (many1 (wordOr signs)).Within (isQuote · = false) :=
  ⟨fun _ => isQuote_of_wordOr plain, fun _ => isQuote_of_wordOr plain⟩

private theorem within_blanks : blanks.Within (isQuote · = false) :=
  fun _ => isQuote_eq_false_of_class _ (by decide)

private theorem within_nameList :
    (word ++ repeated (blanks ++ char ',' ++ blanks ++ word)).Within (isQuote · = false) :=
  ⟨within_word, ⟨⟨within_blanks, List.forall_mem_singleton.mpr (by decide)⟩, within_blanks⟩,
    within_word⟩

private theorem within_head (signs : List Char) (plain : ∀ c ∈ signs, isQuote c = false) :
    (repeated1 (one isAsciiNameStart ++ many (wordOr signs) ++ blanks1)).Within
      (isQuote · = false) := by
  have piece :
      (one isAsciiNameStart ++ many (wordOr signs) ++ blanks1).Within (isQuote · = false) :=
    ⟨⟨fun _ => isQuote_eq_false_of_class _ (by decide), fun _ => isQuote_of_wordOr plain⟩,
      within_blanks, within_blanks⟩
  exact ⟨piece, piece⟩

/-!
### Types with clean ends
-/

private theorem cleanEnds_of_reads_many1 {signs : List Char}
    (plain : ∀ c ∈ signs, Text.isBlank c = false ∧ isQuote c = false) {before text rest : List Char}
    {captures kept : Captures}
    (reads : (many1 (wordOr signs)).Reads before text rest captures kept) : HasCleanEnds text :=
  .of_forall fun c member => ⟨isBlank_of_wordOr (fun d sign => (plain d sign).1)
    (reads.of_many1.2.1 c member),
    isQuote_of_wordOr (fun d sign => (plain d sign).2) (reads.of_many1.2.1 c member)⟩

private theorem cleanEnds_of_reads_arguments {inClass : Char → Bool} {before text rest : List Char}
    {captures kept : Captures}
    (reads : (optional (char '<' ++ many inClass ++ char '>')).Reads before text rest
      captures kept) : HasCleanEnds text := by
  rcases reads with ⟨_, _, _, rfl, ⟨_, inside, _, rfl, ⟨rfl, _⟩, _⟩, ⟨rfl, _⟩⟩ | ⟨rfl, _⟩
  · exact ⟨by simp; decide, by rw [List.getLast?_concat]; decide⟩
  · exact .of_forall (List.forall_mem_nil _)

private theorem cleanEnds_of_reads_brackets {before text rest : List Char}
    {captures kept : Captures}
    (reads : (repeated (Pattern.text "[]")).Reads before text rest captures kept) :
    HasCleanEnds text := by
  induction reads with
  | stop => exact .of_forall (List.forall_mem_nil _)
  | more first _ others =>
    obtain ⟨rfl, _⟩ := first
    exact HasCleanEnds.append (.of_forall (by decide)) others

end Pattern

/-!
## Declarations
-/

/-- The name is clean, or it is that of an import and the line has white space between quotes; the
type is clean, or it is one of Rust on such a line. Where names are words of the line, nothing is
said of them here. -/
structure Declaration.Cleaned (language : Language) (line : List Char) (declaration : Declaration) :
    Prop where
  name : language ∈ wordLanguages ∨
    CleanUnless (declaration.kind = .imported ∧ HasQuotedGap line) declaration.name
  dataType : ∀ type ∈ declaration.dataType, CleanUnless (language = .rust ∧ HasQuotedGap line) type

/-- A text that gives a clean name, unless it is taken from the line for an import. -/
def NameText (language : Language) (line : List Char) (kind : Kind) (raw : List Char) : Prop :=
  language ∈ wordLanguages ∨ Settles raw ∨ kind = .imported ∧ raw <:+: line

/-- A text that gives a clean type, unless it is taken from a line of Rust. -/
def TypeText (language : Language) (line : List Char) (dataType : Option (List Char)) : Prop :=
  ∀ raw ∈ dataType, Settles raw ∨ language = .rust ∧ raw <:+: line

/-- A part of the line is cleaned for good unless the line has white space between quotes. -/
theorem settles_or_of_isInfix {line raw : List Char} {reason : Prop}
    (settled : Settles raw ∨ reason ∧ raw <:+: line) :
    Settles raw ∨ reason ∧ HasQuotedGap line := by
  rcases settled with settles | ⟨holds, part⟩
  · exact .inl settles
  · exact (settles_or_hasQuotedGap raw).imp_right fun gapped => ⟨holds, gapped.of_isInfix part⟩

section Texts

variable {language : Language} {line : List Char} {scope : String} {kind : Kind}
    {dataType : Option (List Char)}
  {description : Option String}

private theorem typeText_none : TypeText language line none := by
  simp [TypeText]

theorem Unquoted.typeText {raw : List Char} (unquoted : Unquoted raw) :
    TypeText language line (some raw) := by
  rintro _ ⟨⟩
  exact .inl unquoted.settles

theorem Unquoted.nameText {raw : List Char} (unquoted : Unquoted raw) :
    NameText language line kind raw :=
  .inr (.inl unquoted.settles)

theorem HasCleanEnds.typeText {raw : List Char} (ends : HasCleanEnds raw) :
    TypeText language line (some raw) := by
  rintro _ ⟨⟩
  exact .inl ends.settles

theorem Declaration.cleaned {raw : List Char} {name : String} (cleaned : cleanName? raw = some name)
    (nameText : NameText language line kind raw) (typeText : TypeText language line dataType) :
    Declaration.Cleaned language line
      { name, kind, scope, dataType := dataType.bind cleanName?, description } where
  name := nameText.imp_right fun settled => .of_cleanName? cleaned (settles_or_of_isInfix settled)
  dataType := by
    intro type found
    obtain ⟨rawType, given, typeCleaned⟩ := Option.bind_eq_some_iff.mp found
    exact .of_cleanName? typeCleaned (settles_or_of_isInfix (typeText rawType given))

end Texts

/-!
## Rules
-/

/-- Whatever the effect declares is clean, with the exceptions for imports and for Rust. -/
def Effect.Cleaned (language : Language) (line : List Char) (effect : Effect) : Prop :=
  ∀ declaration ∈ effect.declarations, declaration.Cleaned language line

section Effect

variable {language : Language} {line : List Char} {scope : String} {kind : Kind}
    {dataType : Option (List Char)}
  {description : Option String} {opens : List Scope} {group : GroupChange} {claims : Bool}

theorem Effect.cleaned_nil : Effect.Cleaned language line ⟨[], opens, group, claims⟩ := by
  simp [Cleaned]

theorem Effect.cleaned_of? {raw : List Char} (nameText : NameText language line kind raw)
    (typeText : TypeText language line dataType) :
    Effect.Cleaned language line
      ⟨(Declaration.of? scope kind raw dataType description).toList, opens, group, claims⟩ :=
  Declaration.forall_mem_of? fun _ cleaned => Declaration.cleaned cleaned nameText typeText

theorem Effect.cleaned_filterMap {names : List (List Char)}
    (nameTexts : ∀ raw ∈ names, NameText language line kind raw)
    (typeText : TypeText language line dataType) :
    Effect.Cleaned language line
      ⟨names.filterMap fun raw => Declaration.of? scope kind raw dataType description, opens,
        group, claims⟩ :=
  Declaration.forall_mem_filterMap fun raw listed _ cleaned =>
    Declaration.cleaned cleaned (nameTexts raw listed) typeText

end Effect

def Rule.Cleans (language : Language) (rule : Rule) : Prop :=
  ∀ line context found, rule.pattern.IsMatch line found →
    Yields (Effect.Cleaned language line) (rule.effect? found.captures line context)

namespace Rules

open Effect Pattern

/-!
### Texts that the rules keep
-/

private theorem unquoted_of_reads {pattern : Pattern}
    (within : pattern.Within (isQuote · = false)) :
    ∀ before text rest captures kept, pattern.Reads before text rest captures kept →
    Unquoted text :=
  fun _ _ _ _ _ reads => reads.within within

theorem JavaScript.within_memberName : JavaScript.memberName.Within (isQuote · = false) :=
  ⟨⟨List.forall_mem_singleton.mpr (by decide), trivial⟩, within_word⟩

theorem JavaScript.within_dollarName : JavaScript.dollarName.Within (isQuote · = false) := by
  have start : ∀ c, (isAsciiNameStart c || c == '$') = true → isQuote c = false :=
    fun _ => isQuote_eq_false_of_class (fun c => isAsciiNameStart c || c == '$') (by decide)
  exact ⟨start, fun _ => isQuote_of_wordOr (by decide)⟩

theorem C.function_keeps_head : C.function.pattern.Keeps .head Unquoted := by
  have head := unquoted_of_reads (within_head ['*'] (by decide))
  simp only [C.function, C.openBody]
  simpa using head

theorem C.plainVariables_keeps_type : C.plainVariables.pattern.Keeps .type Unquoted := by
  have type := unquoted_of_reads within_word
  simp only [C.plainVariables, C.bounds]
  simpa using type

theorem Cpp.function_keeps_head : Cpp.function.pattern.Keeps .head Unquoted := by
  have head := unquoted_of_reads (within_head [':', '<', '>', ',', '*', '&'] (by decide))
  simp only [Cpp.function, Cpp.templateHead, Cpp.qualification, Cpp.memberName, Cpp.bodyOrSemicolon,
    Cpp.openBody]
  simpa using head

theorem Cpp.plainVariables_keeps_type : Cpp.plainVariables.pattern.Keeps .type HasCleanEnds := by
  have type : ∀ before text rest captures kept,
      (many1 (wordOr [':']) ++ optional (char '<' ++ many (noneOf [';', '=', '(', ')']) ++
        char '>')).Reads before text rest
        captures kept → HasCleanEnds text := by
    rintro _ _ _ _ _ ⟨_, _, _, rfl, readName, readArguments⟩
    exact (cleanEnds_of_reads_many1 (by decide) readName).append
      (cleanEnds_of_reads_arguments readArguments)
  simp only [Cpp.plainVariables]
  simpa using type

theorem Java.cleanEnds_of_reads_typeName : ∀ before text rest captures kept,
    Java.typeName.Reads before text rest captures kept → HasCleanEnds text := by
  rintro _ _ _ _ _ ⟨_, _, _, rfl, ⟨_, _, _, rfl, readName, readArguments⟩, readBrackets⟩
  exact ((cleanEnds_of_reads_many1 (by decide) readName).append
    (cleanEnds_of_reads_arguments readArguments)).append
    (cleanEnds_of_reads_brackets readBrackets)

theorem CSharp.cleanEnds_of_reads_typeName : ∀ before text rest captures kept,
    CSharp.typeName.Reads before text rest captures kept → HasCleanEnds text := by
  rintro _ _ _ _ _ ⟨_, mark, _, rfl,
    ⟨_, _, _, rfl, ⟨_, _, _, rfl, readName, readArguments⟩, readBrackets⟩, readMark⟩
  have ends : HasCleanEnds mark := by
    rcases readMark with ⟨rfl, _⟩ | ⟨rfl, _⟩
    · exact .of_forall (by decide)
    · exact .of_forall (List.forall_mem_nil _)
  exact (((cleanEnds_of_reads_many1 (by decide) readName).append
    (cleanEnds_of_reads_arguments readArguments)).append
    (cleanEnds_of_reads_brackets readBrackets)).append ends

theorem Java.keeps_type :
    ∀ rule ∈ [Java.method, Java.plainVariables], rule.pattern.Keeps .type HasCleanEnds := by
  have inType : Java.typeName.Keeps .type HasCleanEnds := by simp [Java.typeName, Java.brackets]
  simp only [List.forall_mem_cons, Java.method, Java.plainVariables]
  simpa [Java.leadingWords, Java.brackets, inType] using Java.cleanEnds_of_reads_typeName

theorem CSharp.keeps_type :
    ∀ rule ∈ [CSharp.method, CSharp.property, CSharp.plainVariables],
      rule.pattern.Keeps .type HasCleanEnds := by
  have inType : CSharp.typeName.Keeps .type HasCleanEnds := by simp [CSharp.typeName]
  simp only [List.forall_mem_cons, CSharp.method, CSharp.property, CSharp.plainVariables]
  simpa [CSharp.leadingWords, inType] using CSharp.cleanEnds_of_reads_typeName

theorem Go.keeps_unquoted :
    ∀ rule ∈ Go.table.cascade, ∀ slot ∈ [.name, .names, .type],
      rule.pattern.Keeps slot Unquoted := by
  have name := unquoted_of_reads within_word
  have names := unquoted_of_reads within_nameList
  have type := unquoted_of_reads (within_many1_wordOr ['.', '*', '[', ']'] (by decide))
  simp only [Go.table, List.forall_mem_cons, Go.groupEnd, Go.groupImport, Go.groupSpec, Go.package,
    Go.groupStart, Go.imports, Go.function, Go.types, Go.constants, Go.plainVariables,
    Go.shortVariables, Go.interfaceMethod, Go.field, Go.nameList, Go.typeName, Go.bracketed,
    Go.optionalType, Go.valueOrEnd, Go.importedPath]
  simp
  and_intros <;> assumption

theorem Python.keeps_unquoted :
    ∀ rule ∈ [Python.function, Python.classes, Python.selfProperty, Python.typedVariable,
      Python.plainVariables,
        Python.builtinCall], ∀ slot ∈ [.name, .names, .type], rule.pattern.Keeps slot Unquoted := by
  have name := unquoted_of_reads within_word
  have names := unquoted_of_reads within_nameList
  simp only [List.forall_mem_cons, Python.function, Python.classes, Python.selfProperty,
    Python.typedVariable, Python.plainVariables, Python.builtinCall, Python.assigned]
  simp
  and_intros <;> assumption

theorem Rust.keeps_name : ∀ rule ∈ Rust.table.cascade, rule.pattern.Keeps .name Unquoted := by
  have name := unquoted_of_reads within_word
  simp only [Rust.table, List.forall_mem_cons, Rust.imports, Rust.function, Rust.implementation,
    Rust.traits, Rust.structures, Rust.typeAlias, Rust.modules, Rust.plainVariables,
    Rust.tupleVariables, Rust.statics, Rust.constants, Rust.field, Rust.itemStart, Rust.visibility]
  simpa [few1] using name

theorem JavaScript.keeps_name :
    ∀ rule ∈ JavaScript.table.cascade ++ JavaScript.table.checks,
      rule.pattern.Keeps .name Unquoted := by
  have name := unquoted_of_reads within_word
  have member := unquoted_of_reads JavaScript.within_memberName
  have dollar := unquoted_of_reads JavaScript.within_dollarName
  have inDollar : JavaScript.dollarName.Keeps .name Unquoted := ⟨trivial, trivial⟩
  simp only [JavaScript.table, List.cons_append, List.nil_append, List.forall_mem_cons,
    JavaScript.function, JavaScript.classes, JavaScript.constructors, JavaScript.method,
    JavaScript.field, JavaScript.destructuring, JavaScript.plainVariables, JavaScript.imports,
    JavaScript.thisProperty, JavaScript.staticProperty, JavaScript.prototypeMethod,
    JavaScript.builtinCall, JavaScript.assigned]
  simp [JavaScript.memberName, inDollar]
  and_intros <;> assumption

/-!
### What the rules declare
-/

section Kept

variable {language : Language} {kind : Kind} {pattern : Pattern} {line : List Char} {found : Match}
  (isMatch : pattern.IsMatch line found) {slot : Slot} (keeps : pattern.Keeps slot Unquoted)

include isMatch keeps

private theorem nameText_of_isInfix {text name : List Char}
    (kept : found.captures.text? slot = some text) (part : name <:+: text) :
    NameText language line kind name :=
  Unquoted.nameText (Unquoted.of_subset (isMatch.keeps keeps kept) part.subset)

private theorem nameText_of_keeps {name : List Char}
    (kept : found.captures.text? slot = some name) : NameText language line kind name :=
  nameText_of_isInfix isMatch keeps kept List.infix_rfl

private theorem typeText_of_keeps : TypeText language line (found.captures.text? slot) :=
  fun _ kept => .inl (Unquoted.settles (isMatch.keeps keeps kept))

end Kept

private theorem macroDefinition_cleans {language : Language} (words : language ∈ wordLanguages) :
    macroDefinition.Cleans language := by
  intro line context found isMatch
  exact .bindKept fun name _ => .some (cleaned_of? (.inl words) typeText_none)

theorem C.cleans : ∀ rule ∈ C.table.cascade, rule.Cleans .c := by
  have words : Language.c ∈ wordLanguages := by decide
  simp only [C.table, List.forall_mem_cons]
  refine ⟨macroDefinition_cleans words, ?function, ?typeDefinition, ?typeDefinitionEnd, ?structures,
    ?plainVariables, by simp⟩
  all_goals intro line context found isMatch
  case function =>
    refine .bindKept fun head kept => .bindKept fun name _ =>
      .ite .none (.some (cleaned_of? (.inl words) fun type given => ?_))
    exact .inl (unquoted_wordsWithout? (isMatch.keeps C.function_keeps_head kept) given).settles
  case typeDefinition | typeDefinitionEnd | structures =>
    exact .bindKept fun name _ => .some (cleaned_of? (.inl words) typeText_none)
  case plainVariables =>
    exact .bindKept fun dataType kept => .bindKept fun name _ => .ite .none
      (.some (cleaned_of? (.inl words) (isMatch.keeps C.plainVariables_keeps_type kept).typeText))

theorem Cpp.cleans : ∀ rule ∈ Cpp.table.cascade, rule.Cleans .cpp := by
  have words : Language.cpp ∈ wordLanguages := by decide
  have declared (line : List Char) (owner : String) (name : List Char) :
      (Cpp.constructorEffect line owner name).Cleaned .cpp line :=
        cleaned_of? (.inl words) typeText_none
  simp only [Cpp.table, List.forall_mem_cons]
  refine ⟨macroDefinition_cleans words, ?namespaces, ?classes, ?constructors, ?function,
    ?plainVariables, by simp⟩
  all_goals intro line context found isMatch
  case namespaces => exact .bindKept fun name _ => .some cleaned_nil
  case classes => exact .bindKept fun name _ => .some (cleaned_of? (.inl words) typeText_none)
  case constructors =>
    exact .bindKept fun qualification _ => .bindKept fun name _ =>
      .ite (.ite .none (.some (declared _ _ _))) (.ite .none (.some (declared _ _ _)))
  case function =>
    refine .bindKept fun head kept => .bindKept fun qualified _ => .bindKept fun parameters _ =>
      .ite .none ?_
    have type : TypeText .cpp line (wordsWithout? Cpp.specifiers head) := fun raw given =>
      .inl (unquoted_wordsWithout? (isMatch.keeps Cpp.function_keeps_head kept) given).settles
    dsimp only
    split
    · exact .ite (.some (declared _ _ _)) (.some (cleaned_of? (.inl words) type))
    · exact .ite (.some (declared _ _ _)) (.some (cleaned_of? (.inl words) type))
  case plainVariables =>
    exact .bindKept fun dataType kept => .bindKept fun name _ => .bindKept fun tail _ => .ite .none
      (.some (cleaned_of? (.inl words) (isMatch.keeps Cpp.plainVariables_keeps_type kept).typeText))

theorem Java.cleans : ∀ rule ∈ Java.table.cascade, rule.Cleans .java := by
  have words : Language.java ∈ wordLanguages := by decide
  simp only [Java.table, List.forall_mem_cons]
  refine ⟨?package, ?imports, ?classes, ?method, ?bareConstructor, ?plainVariables, by simp⟩
  all_goals intro line context found isMatch
  case package => exact .some cleaned_nil
  case imports =>
    exact .bindKept fun path _ => .ite (.some cleaned_nil)
      (.some (cleaned_of? (.inl words) typeText_none))
  case classes => exact .bindKept fun name _ => .some (cleaned_of? (.inl words) typeText_none)
  case method =>
    refine .bindKept fun dataType kept => .bindKept fun name _ => .ite .none (.some ?_)
    split
    · exact cleaned_of? (.inl words) typeText_none
    · exact cleaned_of? (.inl words)
        (isMatch.keeps (Java.keeps_type Java.method (by simp)) kept).typeText
  case bareConstructor =>
    exact .bindKept fun name _ => .ite .none (.some (cleaned_of? (.inl words) typeText_none))
  case plainVariables =>
    exact .bindKept fun dataType kept => .bindKept fun name _ => .ite .none
      (.some (cleaned_of? (.inl words)
        (isMatch.keeps (Java.keeps_type Java.plainVariables (by simp)) kept).typeText))

theorem CSharp.cleans : ∀ rule ∈ CSharp.table.cascade, rule.Cleans .csharp := by
  have words : Language.csharp ∈ wordLanguages := by decide
  simp only [CSharp.table, List.forall_mem_cons]
  refine ⟨?usings, ?namespaces, ?classes, ?method, ?bareConstructor, ?property,
    ?plainVariables, by simp⟩
  all_goals intro line context found isMatch
  case usings | classes =>
    exact .bindKept fun name _ => .some (cleaned_of? (.inl words) typeText_none)
  case namespaces => exact .bindKept fun name _ => .some cleaned_nil
  case method =>
    refine .bindKept fun dataType kept => .bindKept fun name _ => .ite .none (.some ?_)
    split
    · exact cleaned_of? (.inl words) typeText_none
    · exact cleaned_of? (.inl words)
        (isMatch.keeps (CSharp.keeps_type CSharp.method (by simp)) kept).typeText
  case bareConstructor =>
    exact .bindKept fun name _ => .ite .none (.some (cleaned_of? (.inl words) typeText_none))
  case property =>
    exact .bindKept fun dataType kept => .bindKept fun name _ => .ite .none
      (.some (cleaned_of? (.inl words)
        (isMatch.keeps (CSharp.keeps_type CSharp.property (by simp)) kept).typeText))
  case plainVariables =>
    exact .bindKept fun dataType kept => .bindKept fun name _ => .ite .none
      (.some (cleaned_of? (.inl words)
        (isMatch.keeps (CSharp.keeps_type CSharp.plainVariables (by simp)) kept).typeText))

theorem Go.importEffect_cleaned {line path : List Char} {binding : Option (List Char)}
    (bindingInside : ∀ name, binding = some name → name <:+: line) (pathInside : path <:+: line) :
    (Go.importEffect binding path).Cleaned .go line :=
  cleaned_of? (.inr (.inr ⟨rfl, Go.importName_isInfix bindingInside pathInside⟩))
    (Unquoted.typeText (by decide))

theorem Go.cleans : ∀ rule ∈ Go.table.cascade, rule.Cleans .go := by
  simp only [Go.table, List.forall_mem_cons]
  refine ⟨?groupEnd, ?groupImport, ?groupSpec, ?package, ?groupStart, ?imports, ?function, ?types,
    ?constants, ?plainVariables, ?shortVariables, ?interfaceMethod, ?field, by simp⟩
  all_goals intro line context found isMatch
  case groupEnd => exact .ite .none (.some cleaned_nil)
  case groupImport =>
    exact .ite .none (.bindKept fun path kept =>
      .some (Go.importEffect_cleaned (fun _ => isMatch.text?_isInfix) (isMatch.text?_isInfix kept)))
  case groupSpec =>
    have keeps := Go.keeps_unquoted Go.groupSpec (by simp [Go.table])
    exact .bindKept fun kind _ => .bindKept fun _ kept => .some (cleaned_filterMap
      (fun _ member => nameText_of_isInfix isMatch (keeps .names (by simp)) kept
        (Go.infix_of_mem_identifiers member))
      (typeText_of_keeps isMatch (keeps .type (by simp))))
  case package => exact .some cleaned_nil
  case groupStart => exact .bindKept fun keyword _ => .bindKept fun group _ => .some cleaned_nil
  case imports =>
    exact .bindKept fun path kept =>
      .some (Go.importEffect_cleaned (fun _ => isMatch.text?_isInfix) (isMatch.text?_isInfix kept))
  case function =>
    refine .bindKept fun _ kept => .some ?_
    have keeps := Go.keeps_unquoted Go.function (by simp [Go.table]) .name (by simp)
    split
    · exact cleaned_of? (nameText_of_keeps isMatch keeps kept) typeText_none
    · exact cleaned_of? (nameText_of_keeps isMatch keeps kept) typeText_none
  case types =>
    have keeps := Go.keeps_unquoted Go.types (by simp [Go.table])
    exact .bindKept fun _ kept => .bindKept fun underlying keptType =>
      .some (cleaned_of? (nameText_of_keeps isMatch (keeps .name (by simp)) kept)
        (keptType ▸ typeText_of_keeps isMatch (keeps .type (by simp))))
  case constants =>
    have keeps := Go.keeps_unquoted Go.constants (by simp [Go.table])
    exact .bindKept fun _ kept => .some
      (cleaned_of? (nameText_of_keeps isMatch (keeps .name (by simp)) kept)
      (typeText_of_keeps isMatch (keeps .type (by simp))))
  case plainVariables =>
    have keeps := Go.keeps_unquoted Go.plainVariables (by simp [Go.table])
    exact .bindKept fun _ kept => .some (cleaned_filterMap
      (fun _ member => nameText_of_isInfix isMatch (keeps .names (by simp)) kept
        (Go.infix_of_mem_identifiers member))
      (typeText_of_keeps isMatch (keeps .type (by simp))))
  case shortVariables =>
    have keeps := Go.keeps_unquoted Go.shortVariables (by simp [Go.table])
    exact .bindKept fun _ kept => .ite .none (.some (cleaned_filterMap
      (fun _ member => nameText_of_isInfix isMatch (keeps .names (by simp)) kept
        (Go.infix_of_mem_identifiers member))
      typeText_none))
  case interfaceMethod =>
    have keeps := Go.keeps_unquoted Go.interfaceMethod (by simp [Go.table])
    exact .bindKept fun _ kept => .ite .none
      (.some (cleaned_of? (nameText_of_keeps isMatch (keeps .name (by simp)) kept) typeText_none))
  case field =>
    have keeps := Go.keeps_unquoted Go.field (by simp [Go.table])
    exact .bindKept fun _ kept => .bindKept fun dataType keptType =>
      .ite .none (.some (cleaned_filterMap
      (fun _ member => nameText_of_isInfix isMatch (keeps .names (by simp)) kept
        (Go.infix_of_mem_identifiers member))
      (keptType ▸ typeText_of_keeps isMatch (keeps .type (by simp)))))

theorem Python.cleans :
    ∀ rule ∈ Python.table.cascade ++ Python.table.checks, rule.Cleans .python := by
  simp only [Python.table, List.cons_append, List.nil_append, List.forall_mem_cons]
  refine ⟨?function, ?classes, ?selfProperty, ?typedVariable, ?plainVariables, ?imports,
    ?builtinCall, by simp⟩
  all_goals intro line context found isMatch
  case function | classes =>
    exact .bindKept fun _ kept => .some (cleaned_of?
      (nameText_of_keeps isMatch (Python.keeps_unquoted _ (by simp) .name (by simp)) kept)
        typeText_none)
  case selfProperty =>
    have keeps := Python.keeps_unquoted Python.selfProperty (by simp)
    exact .bindKept fun _ kept => .ite .none (.some (cleaned_of?
      (nameText_of_keeps isMatch (keeps .name (by simp)) kept)
        (typeText_of_keeps isMatch (keeps .type (by simp)))))
  case typedVariable =>
    have keeps := Python.keeps_unquoted Python.typedVariable (by simp)
    exact .bindKept fun _ kept => .bindKept fun dataType keptType => .ite .none (.some (cleaned_of?
      (nameText_of_keeps isMatch (keeps .name (by simp)) kept)
        (keptType ▸ typeText_of_keeps isMatch (keeps .type (by simp)))))
  case plainVariables =>
    refine .bindKept fun targets kept =>
      .ite .none (.some (cleaned_filterMap (fun name member => ?_) typeText_none))
    have part := infix_of_mem_commaSeparated (List.mem_filter.mp member).1
    exact nameText_of_isInfix isMatch
      (Python.keeps_unquoted Python.plainVariables (by simp) .names (by simp)) kept part
  case imports =>
    exact Python.imports_yields isMatch fun _ parts =>
      cleaned_filterMap (fun name member => .inr (.inr ⟨rfl, parts name member⟩))
        (Unquoted.typeText (by decide))
  case builtinCall =>
    exact .bindKept fun _ kept => .ite .none
      (.some (cleaned_of? (nameText_of_keeps isMatch
        (Python.keeps_unquoted _ (by simp) .name (by simp)) kept)
        (Unquoted.typeText (by decide))))

theorem JavaScript.unquoted_typeTag {object : Builtin.GlobalObject} {owner name : String}
    (found : Builtin.javascriptMethod? owner name = some object) :
    Unquoted object.typeTag.toList := by
  have every : ∀ object ∈ Builtin.javascriptObjects, Unquoted object.typeTag.toList := by decide
  exact every object (List.mem_of_find?_eq_some (Option.filter_eq_some_iff.mp found).1)

theorem JavaScript.builtinCall_keeps_owner :
    JavaScript.builtinCall.pattern.Keeps .owner Unquoted := by
  have owner := unquoted_of_reads JavaScript.within_dollarName
  have inDollar : JavaScript.dollarName.Keeps .owner Unquoted := ⟨trivial, trivial⟩
  simp only [JavaScript.builtinCall]
  simpa [inDollar] using owner

theorem JavaScript.cascade_cleans : ∀ rule ∈ JavaScript.table.cascade, rule.Cleans .javascript := by
  simp only [JavaScript.table, List.forall_mem_cons]
  refine ⟨?function, ?classes, ?constructors, ?method, ?field, ?destructuring, ?plainVariables,
    ?imports, by simp⟩
  all_goals intro line context found isMatch
  case function | classes =>
    exact .bindKept fun _ kept =>
      .some (cleaned_of? (nameText_of_keeps isMatch
        (JavaScript.keeps_name _ (by simp [JavaScript.table])) kept) typeText_none)
  case constructors =>
    exact .ite .none (.some (cleaned_of? (Unquoted.nameText (by decide)) typeText_none))
  case method | field =>
    exact .bindKept fun _ kept => .ite .none
      (.some (cleaned_of? (nameText_of_keeps isMatch
        (JavaScript.keeps_name _ (by simp [JavaScript.table])) kept) typeText_none))
  case destructuring =>
    refine .bindKept fun keyword _ => .bindKept fun bindings _ =>
      .some (cleaned_filterMap (fun name member => Unquoted.nameText fun c inName => ?_)
        typeText_none)
    have plain : isPlainLocal name = true := (List.mem_filter.mp member).2
    exact isQuote_eq_false_of_class (fun c => Text.isIdentifierChar c || c == '$') (by decide)
      (List.all_eq_true.mp plain c inName)
  case plainVariables =>
    exact .bindKept fun keyword _ => .bindKept fun _ kept =>
      .some (cleaned_of? (nameText_of_keeps isMatch
        (JavaScript.keeps_name _ (by simp [JavaScript.table])) kept) typeText_none)
  case imports =>
    exact JavaScript.imports_yields isMatch fun _ parts =>
      cleaned_filterMap (fun name member => .inr (.inr ⟨rfl, parts name member⟩)) typeText_none

theorem JavaScript.checks_clean : ∀ rule ∈ JavaScript.table.checks, rule.Cleans .javascript := by
  simp only [JavaScript.table, List.forall_mem_cons]
  refine ⟨?thisProperty, ?staticProperty, ?prototypeMethod, ?builtinCall, by simp⟩
  all_goals intro line context found isMatch
  case thisProperty =>
    exact .bindKept fun _ kept => .ite .none
      (.some (cleaned_of? (nameText_of_keeps isMatch
        (JavaScript.keeps_name _ (by simp [JavaScript.table])) kept) typeText_none))
  case staticProperty =>
    exact .bindKept fun owner _ => .bindKept fun _ kept => .ite .none
      (.some (cleaned_of? (nameText_of_keeps isMatch
        (JavaScript.keeps_name _ (by simp [JavaScript.table])) kept) typeText_none))
  case prototypeMethod =>
    exact .bindKept fun owner _ => .bindKept fun _ kept =>
      .some (cleaned_of? (nameText_of_keeps isMatch
        (JavaScript.keeps_name _ (by simp [JavaScript.table])) kept) typeText_none)
  case builtinCall =>
    refine .bindKept fun owner keptOwner => .bindKept fun name kept =>
      .bindKept fun object isObject => .ite .none
      (.some (cleaned_of? (Unquoted.nameText ?_) (JavaScript.unquoted_typeTag isObject).typeText))
    have inOwner : Unquoted owner := isMatch.keeps JavaScript.builtinCall_keeps_owner keptOwner
    have inName : Unquoted name :=
      isMatch.keeps (JavaScript.keeps_name _ (by simp [JavaScript.table])) kept
    exact List.forall_mem_append.mpr ⟨inOwner, List.forall_mem_cons.mpr ⟨by decide, inName⟩⟩

theorem Rust.returnType?_isInfix {line type : List Char}
    (found : Rust.returnType? line = some type) : type <:+: line := by
  obtain ⟨⟨start, rest⟩, cut, named⟩ := Option.bind_eq_some_iff.mp found
  have behind : rest <:+: line := by
    rw [Text.append_of_cut? cut]
    exact (List.suffix_append _ _).isInfix
  dsimp only at named
  split at named
  · cases named
  · cases named
    have upTo :=
      (List.takeWhile_prefix fun c => c != '{' && c != ';').trans
        (Text.before_isPrefix " where".toList rest)
    exact (Text.trim_isInfix _).trans (upTo.isInfix.trans behind)

theorem Rust.typeText {pattern : Pattern} {line : List Char} {found : Match}
    (isMatch : pattern.IsMatch line found) {slot : Slot} :
    TypeText .rust line (found.captures.text? slot) :=
  fun _ kept => .inr ⟨rfl, isMatch.text?_isInfix kept⟩

theorem Rust.cleans : ∀ rule ∈ Rust.table.cascade, rule.Cleans .rust := by
  simp only [Rust.table, List.forall_mem_cons]
  refine ⟨?imports, ?function, ?implementation, ?traits, ?structures, ?typeAlias, ?modules,
    ?plainVariables, ?tupleVariables, ?statics, ?constants, ?field, by simp⟩
  all_goals intro line context found isMatch
  case imports =>
    exact .bindKept fun tree kept => .some (cleaned_filterMap
      (fun name member => .inr (.inr ⟨rfl, Rust.importedNames_isInfix isMatch kept name member⟩))
        typeText_none)
  case function =>
    exact .bindKept fun _ kept => .some
      (cleaned_of? (nameText_of_keeps isMatch (Rust.keeps_name _ (by simp [Rust.table])) kept)
      fun _ returned => .inr ⟨rfl, Rust.returnType?_isInfix returned⟩)
  case implementation | modules => exact .bindKept fun _ _ => .some cleaned_nil
  case traits =>
    exact .bindKept fun _ kept =>
      .some (cleaned_of? (nameText_of_keeps isMatch (Rust.keeps_name _ (by simp [Rust.table])) kept)
        (Unquoted.typeText (by decide)))
  case structures =>
    exact .bindKept fun keyword keptKeyword => .bindKept fun _ kept =>
      .some (cleaned_of? (nameText_of_keeps isMatch (Rust.keeps_name _ (by simp [Rust.table])) kept)
        (keptKeyword ▸ Rust.typeText isMatch))
  case typeAlias =>
    refine .bindKept fun _ kept =>
      .some (cleaned_of? (nameText_of_keeps isMatch (Rust.keeps_name _ (by simp [Rust.table])) kept)
        ?_)
    intro type trimmed
    obtain ⟨raw, keptType, rfl⟩ := Option.map_eq_some_iff.mp trimmed
    exact .inr ⟨rfl, (Text.trim_isInfix raw).trans (isMatch.text?_isInfix keptType)⟩
  case plainVariables =>
    exact .bindKept fun _ kept => .ite (.some cleaned_nil)
      (.some (cleaned_of? (nameText_of_keeps isMatch (Rust.keeps_name _ (by simp [Rust.table]))
        kept) (Rust.typeText isMatch)))
  case tupleVariables =>
    refine .bindKept fun names _ =>
      .some (cleaned_filterMap (fun name member => Unquoted.nameText fun c inName => ?_)
        typeText_none)
    have plain := (List.mem_filter.mp member).2
    simp only [Rust.isPlainName, Bool.and_eq_true, List.all_eq_true] at plain
    exact isQuote_eq_false_of_class Text.isIdentifierChar (by decide) (plain.2 c inName)
  case statics | constants =>
    exact .bindKept fun _ kept =>
      .some (cleaned_of? (nameText_of_keeps isMatch (Rust.keeps_name _ (by simp [Rust.table])) kept)
        (Rust.typeText isMatch))
  case field =>
    exact .bindKept fun _ kept => .bindKept fun dataType keptType => .ite .none
      (.some (cleaned_of? (nameText_of_keeps isMatch
        (Rust.keeps_name _ (by simp [Rust.table])) kept)
        (keptType ▸ Rust.typeText isMatch)))

end Rules

theorem Language.cleans (language : Language) :
    ∀ rule ∈ language.rules.cascade ++ language.rules.checks, rule.Cleans language := by
  cases language with
  | c => exact Rules.C.cleans
  | cpp => exact Rules.Cpp.cleans
  | csharp => exact Rules.CSharp.cleans
  | go => exact Rules.Go.cleans
  | java => exact Rules.Java.cleans
  | javascript =>
    exact List.forall_mem_append.mpr
      ⟨Rules.JavaScript.cascade_cleans, Rules.JavaScript.checks_clean⟩
  | python => exact Rules.Python.cleans
  | rust => exact Rules.Rust.cleans

/-!
## Scans
-/

/-- A word is clean, and so is a word with the mark of a destructor. -/
theorem IsWholeWord.clean {language : Language} {line : List Char} {name : String}
    (whole : IsWholeWord line (language.bareName name)) (excuse : Prop) :
    CleanUnless excuse name := by
  have nonempty : name ≠ "" := by
    rintro rfl
    exact whole.nonempty (by simp [Language.bareName])
  have bare : HasCleanEnds (language.bareName name) := .of_forall fun c member =>
    ⟨Text.isBlank_eq_false_of_isWord (whole.isWord c member),
      isQuote_eq_false_of_isWord (whole.isWord c member)⟩
  refine .of_hasCleanEnds nonempty ?_
  unfold Language.bareName at bare
  split at bare
  · next marked =>
    obtain ⟨rest, spelled⟩ := List.head?_eq_some_iff.mp marked.2
    have mark : HasCleanEnds ['~'] := .of_forall (by decide)
    rw [spelled] at bare ⊢
    exact mark.append bare
  · exact bare

/-- The name and the type of every symbol that a scan reports are not empty and have no white space
at their ends. They have no quotes there either, and cleaning them again changes nothing, with two
exceptions on a line that has white space between quotes: the names of imports, other than in C,
C++, Java and C#, and the types of Rust. -/
theorem scan_names_cleaned (language : Language) (source : String) :
    ∀ symbol ∈ scan language source, 1 ≤ symbol.line ∧
    ∃ raw, (Text.lines source.toList)[symbol.line - 1]? = some raw ∧
      CleanUnless (symbol.kind = .imported ∧ language ∉ wordLanguages ∧ HasQuotedGap raw)
        symbol.name ∧
      ∀ type ∈ symbol.dataType, CleanUnless (language = .rust ∧ HasQuotedGap raw) type := by
  intro symbol reported
  have found := (dedup_sublist _).subset reported
  obtain ⟨line, read, declaration, cleaned, rfl⟩ :=
    Context.run_declaredOn language.cleans _ symbol found
  obtain ⟨positive, raw, stands, trimmed⟩ := raw_of_mem_significantLines read
  have part : line.text <:+: raw := trimmed ▸ Text.trim_isInfix raw
  refine ⟨positive, raw, stands, ?_, fun type typed => ?_⟩
  · by_cases words : language ∈ wordLanguages
    · obtain ⟨_, _, _, whole⟩ := Context.run_namedByWords words _ _ found
      exact whole.clean _
    · exact (cleaned.name.resolve_left words).imp fun ⟨imported, gapped⟩ =>
        ⟨imported, words, gapped.of_isInfix part⟩
  · exact (cleaned.dataType type typed).imp fun ⟨rust, gapped⟩ => ⟨rust, gapped.of_isInfix part⟩

/-- A variable whose type has a blank inside, where cleaning does not reach. -/
theorem variable_of_map_type_cleaned :
    let symbol : Symbol :=
      { name := "x", kind := .variable, scope := "global", line := 1, dataType := "map<int, A>",
        language := .cpp }
    symbol ∈ scan .cpp "map<int, A> x;" ∧ cleanName? symbol.name.toList = some symbol.name ∧
      HasCleanEnds "map<int, A>".toList ∧ cleanName? "map<int, A>".toList = some "map<int, A>" := by
  intro symbol
  have reported : symbol ∈ scan .cpp "map<int, A> x;" := by decide +kernel
  obtain ⟨_, _, _, name, type⟩ := scan_names_cleaned .cpp "map<int, A> x;" symbol reported
  have cleanName := name.clean.resolve_right fun excuse => absurd excuse.1 (by decide)
  have cleanType :=
    (type "map<int, A>" rfl).clean.resolve_right fun excuse => absurd excuse.1 (by decide)
  exact ⟨reported, cleanName.2, cleanType⟩

/-- Both exceptions are met. White space hides a second pair of quotes from cleaning, in the name of
an import and in a type of Rust. -/
theorem quotes_left_behind_white_space :
    (scan .javascript "import \x7b \" 'a' \" as b \x7d from \"m\";").map (·.name) = ["'a'"] ∧
      (scan .python "import \" 'a' \"").map (·.name) = ["'a'"] ∧
      (scan .go "import \"' 'a\"").map (·.name) = ["'a"] ∧
      (scan .rust "use \" 'a' \";").map (·.name) = ["'a'"] ∧
      (scan .rust "fn f() -> \" 'a' \" \x7b").map (·.dataType) = ["'a'"] ∧
      cleanName? "'a'".toList = some "a" ∧ cleanName? "'a".toList = some "a" := by
  decide +kernel

end Symtab
