import Symtab.Proofs.SpecLines

/-!
# Specs of declarations

A line of names with a type and a value, or of an imported path, is read in a group and behind its
own keyword. In a group each name but the blank one is declared. So it is for a variable on its own,
but the rule for a constant on its own knows a single name and does not pass over the blank one.
-/

set_option autoImplicit false

namespace Symtab.GoTree

open Rules.Go Pattern

/-!
## Specs
-/

/-- Names, the type that they are given, if any, and what is assigned to them: `a, b int = 0`. -/
structure ValueSpec where
  first : Word
  others : List Word
  type : Option TypeWord
  value : List Char

/-- The name that a package is given by an import: a word, `_` or a dot. -/
structure Binding where
  text : List Char
  nonempty : text ≠ []
  inBinding : ∀ c ∈ text, wordOr ['.'] c = true

/-- The path of a package in quotes, with or without a name before it. -/
structure ImportSpec where
  binding : Option Binding
  path : List Char
  nonempty : path ≠ []
  unquoted : '"' ∉ path

/-- Declarations that can stand in one group. -/
inductive Specs where
  | values (kind : ValueKind) (specs : List ValueSpec)
  | imports (specs : List ImportSpec)

/-- Names with a comma before each. -/
def furtherNames : List Word → List Char
  | [] => []
  | name :: others => ',' :: ' ' :: (name.text ++ furtherNames others)

namespace ValueSpec

variable (spec : ValueSpec)

def names : List Word :=
  spec.first :: spec.others

/-- The names with commas between them. -/
def namesText : List Char :=
  spec.first.text ++ furtherNames spec.others

/-- What stands behind the names. -/
def rest : List Char :=
  match spec.type with
  | none => " = ".toList ++ spec.value
  | some type => ' ' :: (type.text ++ (" = ".toList ++ spec.value))

private theorem rest_untyped {spec : ValueSpec} (untyped : spec.type = none) :
    spec.rest = ' ' :: '=' :: ' ' :: spec.value := by
  rw [rest, untyped]
  rfl

private theorem rest_typed {spec : ValueSpec} {type : TypeWord} (typed : spec.type = some type) :
    spec.rest = ' ' :: (type.text ++ ' ' :: '=' :: ' ' :: spec.value) := by
  rw [rest, typed]
  rfl

def text : List Char :=
  spec.namesText ++ spec.rest

end ValueSpec

namespace ImportSpec

def text (spec : ImportSpec) : List Char :=
  match spec.binding with
  | none => '"' :: (spec.path ++ ['"'])
  | some binding => binding.text ++ ' ' :: '"' :: (spec.path ++ ['"'])

end ImportSpec

def importWord : AsciiWord := ⟨"import".toList, by decide, by decide⟩

namespace Specs

def group : Specs → DeclarationGroup
  | .values kind _ => kind.group
  | .imports _ => .imports

/-- The word that begins the declarations. -/
def keyword : Specs → AsciiWord
  | .values kind _ => kind.keyword
  | .imports _ => importWord

def texts : Specs → List (List Char)
  | .values _ specs => specs.map ValueSpec.text
  | .imports specs => specs.map ImportSpec.text

/-- The lines of a group: `const (`, each of the declarations, and `)`. -/
def groupedLines (specs : Specs) : List (List Char) :=
  groupLines specs.group specs.texts

/-- The same declarations, each behind its own keyword. -/
def separateLines (specs : Specs) : List (List Char) :=
  specs.texts.map fun text => specs.keyword.text ++ ' ' :: text

end Specs

/-!
## Layout
-/

/-- A list of names as a line, with a space behind each comma and around the type and the sign of
the assignment. -/
def ValueSpec.line (spec : ValueSpec) : SpecLine where
  first := spec.first
  others :=
    spec.others.map fun name => ⟨⟨[], List.forall_mem_nil _⟩, ⟨[' '], Text.isBlank_space⟩, name⟩
  type := spec.type.map fun type => ⟨⟨[' '], Text.isBlank_space⟩, List.cons_ne_nil ' ' [], type⟩
  gap := ⟨[' '], Text.isBlank_space⟩
  value := some (' ' :: spec.value)

section Layout

variable (spec : ValueSpec)

theorem ValueSpec.namesText_line : spec.line.namesText = spec.namesText := by
  have further (others : List Word) :
      (others.map fun name => (⟨⟨[], List.forall_mem_nil _⟩, ⟨[' '], Text.isBlank_space⟩, name⟩ :
        FurtherName)).flatMap
        FurtherName.text = furtherNames others := by
    induction others with
    | nil => rfl
    | cons name others ih =>
      rw [List.map_cons, List.flatMap_cons, ih]
      rfl
  exact congrArg (spec.first.text ++ ·) (further spec.others)

theorem ValueSpec.rest_line : spec.line.rest = spec.rest := by
  rw [SpecLine.rest, ValueSpec.line, ValueSpec.rest]
  cases spec.type with
  | none => rfl
  | some type => simp [SpacedType.text, SpecLine.ending]

theorem ValueSpec.text_line : spec.line.text = spec.text := by
  rw [SpecLine.text, spec.namesText_line, spec.rest_line, ValueSpec.text]

theorem ValueSpec.names_line : spec.line.names = spec.names := by
  rw [SpecLine.names, ValueSpec.line, ValueSpec.names, List.map_map]
  exact congrArg (spec.first :: ·) (List.map_id spec.others)

theorem ValueSpec.type_line : spec.line.type.map SpacedType.type = spec.type := by
  rw [ValueSpec.line, Option.map_map]
  exact congrFun Option.map_id spec.type

end Layout

/-!
## Matches
-/

section Matches

variable (spec : ValueSpec)

/-- Behind the names there is a space, and then the type or the sign of the assignment. -/
theorem ValueSpec.exists_rest :
    ∃ c more, spec.rest = ' ' :: c :: more ∧ Text.isBlank c = false ∧ c ≠ ',' := by
  cases typed : spec.type with
  | none => exact ⟨'=', ' ' :: spec.value, ValueSpec.rest_untyped typed, by decide, by decide⟩
  | some type =>
    obtain ⟨c, others, split, inType⟩ := type.exists_first
    refine ⟨c, others ++ ' ' :: '=' :: ' ' :: spec.value, ?_, isBlank_of_inType inType, ?_⟩
    · rw [ValueSpec.rest_typed typed, split]
      rfl
    · rintro rfl
      exact absurd inType (by decide)

/-- The texts that a match keeps of a list of names. -/
def ValueSpec.captures : Captures :=
  typeCaptures spec.type ++ [(.names, spec.namesText)]

theorem ValueSpec.captures_line : spec.line.captures = spec.captures := by
  rw [SpecLine.captures, spec.type_line, spec.namesText_line, ValueSpec.captures]

theorem ValueSpec.takes_text (before : List Char) :
    ∃ later, (capture .names nameList ++ optionalType ++ blanks ++ valueOrEnd).Takes
      ⟨before, spec.text⟩ later [] spec.captures := by
  rw [← spec.text_line, ← spec.captures_line]
  exact spec.line.takes_text before

theorem ValueSpec.isBlank_head? : ∀ c ∈ spec.text.head?, Text.isBlank c = false := by
  rw [ValueSpec.text, ValueSpec.namesText, List.append_assoc]
  exact spec.first.isBlank_head?_append _

theorem ValueSpec.plainVariables_finds :
    plainVariables.pattern.Finds (varWord.text ++ ' ' :: spec.text) spec.captures := by
  have start :=
    ((takes_lineStart (varWord.text ++ ' ' :: spec.text) []).append
      (takes_literal "var".toList _ _ _)).append
    (takes_blanks1_space spec.isBlank_head? _ _)
  obtain ⟨later, read⟩ := spec.takes_text (' ' :: "var".toList.reverse)
  have whole :
      plainVariables.pattern.Takes ⟨[], varWord.text ++ ' ' :: spec.text⟩ later [] spec.captures :=
    start.append read
  exact whole.finds

/-- A constant on its own is read where it has a single name. -/
theorem ValueSpec.constants_finds (single : spec.others = []) :
    constants.pattern.Finds (constWord.text ++ ' ' :: spec.text)
      (typeCaptures spec.type ++ [(.name, spec.first.text)]) := by
  obtain ⟨c, more, split, -⟩ := spec.exists_rest
  have spelled : spec.text = spec.first.text ++ spec.rest := by
    rw [ValueSpec.text, ValueSpec.namesText, single, furtherNames, List.append_nil]
  have stops : ∀ d ∈ spec.rest.head?, Text.isWord d = false := by
    rw [split]
    exact stops_before (by decide) _
  have start :=
    ((takes_lineStart (constWord.text ++ ' ' :: spec.text) []).append
      (takes_literal "const".toList _ _ _)).append
    (takes_blanks1_space spec.isBlank_head? _ _)
  obtain ⟨later, rest⟩ :=
    spec.line.takes_rest (spec.first.text.reverse ++ (' ' :: "const".toList.reverse))
    [(.name, spec.first.text)]
  rw [spec.rest_line, spec.type_line] at rest
  rw [spelled] at start ⊢
  have named := start.append ((spec.first.takes_word stops _ []).capture .name)
  exact ((named.append rest).assoc.append (takes_literal ['='] later (' ' :: spec.value) _)).finds

end Matches

/-!
## Lines without a match
-/

section Unmatched

variable (keyword : AsciiWord) (spec : ValueSpec)

/-- The characters of names in a list, behind a keyword or not. -/
def inNames : Char → Bool :=
  wordOr [' ', ',']

private theorem inNames_furtherNames (others : List Word) :
    ∀ c ∈ furtherNames others, inNames c = true := by
  induction others with
  | nil => exact fun c member => nomatch member
  | cons name others ih =>
    rw [furtherNames, List.forall_mem_cons, List.forall_mem_cons, List.forall_mem_append]
    exact ⟨rfl, rfl, fun c member => by simp [inNames, wordOr, name.isWord c member], ih⟩

/-- Behind words and signs there is a first character that is not part of a name: one of the signs
or the one after the space. -/
theorem exists_sign_of_wordOr {signs text : List Char} {c : Char}
    (inText : ∀ d ∈ text, wordOr signs d = true) (unnamed : inNames c = false) (rest : List Char) :
    ∃ sign ∈ c :: signs, (text ++ ' ' :: c :: rest).find? (!inNames ·) = some sign := by
  have spaceNamed : inNames ' ' = true := by decide
  rw [List.find?_append]
  cases found : text.find? (!inNames ·) with
  | none => exact ⟨c, List.mem_cons_self, by simp [spaceNamed, unnamed]⟩
  | some sign =>
    refine ⟨sign, List.mem_cons_of_mem c ?_, rfl⟩
    have inSigns := inText sign (List.mem_of_find?_eq_some found)
    have signUnnamed : inNames sign = false := by simpa using List.find?_some found
    rw [inNames, wordOr, Bool.or_eq_false_iff] at signUnnamed
    rw [wordOr, signUnnamed.1, Bool.false_or] at inSigns
    simpa using inSigns

/-- The first character that is not part of a name is one of a type or the sign of the
assignment. -/
theorem ValueSpec.exists_sign :
    ∃ c ∈ ['=', '.', '*', '[', ']'], (keyword.text ++ ' ' :: spec.text).find? (!inNames ·) =
      some c := by
  have skipped : ∀ c ∈ keyword.text ++ ' ' :: spec.namesText, inNames c = true := by
    rw [List.forall_mem_append, List.forall_mem_cons, ValueSpec.namesText, List.forall_mem_append]
    exact ⟨fun c member => by simp [inNames, wordOr, keyword.isWord c member], rfl,
      fun c member => by simp [inNames, wordOr, spec.first.isWord c member],
        inNames_furtherNames spec.others⟩
  have behind :
      (keyword.text ++ ' ' :: spec.text).find? (!inNames ·) = spec.rest.find? (!inNames ·) := by
    have split :
        keyword.text ++ ' ' :: spec.text =
          (keyword.text ++ ' ' :: spec.namesText) ++ spec.rest := by
      rw [ValueSpec.text, List.append_assoc]
      rfl
    rw [split, find?_append_of_skipped skipped]
  rw [behind]
  cases typed : spec.type with
  | none => exact ⟨'=', by decide, by rw [ValueSpec.rest_untyped typed]; rfl⟩
  | some type =>
    have afterSpace :
        spec.rest.find? (!inNames ·) =
          (type.text ++ ' ' :: '=' :: ' ' :: spec.value).find? (!inNames ·) := by
      rw [ValueSpec.rest_typed typed]
      rfl
    rw [afterSpace]
    exact exists_sign_of_wordOr type.inType (by decide) (' ' :: spec.value)

private theorem groupStart_find?_eq_none {line : List Char} {c : Char}
    (ahead : line.find? (!inNames ·) = some c) (visible : Text.isBlank c = false)
    (notParen : c ≠ '(') : groupStart.pattern.find? line = none := by
  have anchored : groupStart.pattern.Anchored := trivial
  have noParen : inNames '(' = false := by decide
  refine anchored.find?_eq_none (blocked_of_not_meets ?_ ahead ?_)
  · simp [groupStart, noParen]
  · simp +decide [groupStart, anyText, visible, notParen.symm]

/-- No rule that needs a parenthesis or a colon behind some names finds it. -/
theorem ValueSpec.find?_of_sign :
    ∀ rule ∈ [groupStart, shortVariables, interfaceMethod],
      rule.pattern.find? (keyword.text ++ ' ' :: spec.text) = none := by
  obtain ⟨c, sign, ahead⟩ := spec.exists_sign keyword
  have different :
      ∀ c ∈ ['=', '.', '*', '[', ']'], Text.isBlank c = false ∧ Text.isWord c = false ∧ c ≠ '(' ∧
      c ≠ ':' := by
    decide
  obtain ⟨notBlank, notWord, notParen, notColon⟩ := different c sign
  have noParen : inNames '(' = false := by decide
  have noColon : inNames ':' = false := by decide
  rw [List.forall_mem_cons, List.forall_mem_cons, List.forall_mem_singleton]
  refine ⟨groupStart_find?_eq_none ahead notBlank notParen, ?_, ?_⟩
  · have anchored : shortVariables.pattern.Anchored := trivial
    refine anchored.find?_eq_none (blocked_of_not_meets ?_ ahead ?_)
    · simp [shortVariables, noColon]
    · simp +decide [shortVariables, nameList, anyText, notBlank, notWord, notColon.symm]
  · have anchored : interfaceMethod.pattern.Anchored := trivial
    refine anchored.find?_eq_none (blocked_of_not_meets ?_ ahead ?_)
    · simp [interfaceMethod, noParen]
    · simp [interfaceMethod, notBlank, notWord, notParen.symm]

/-- The rules before the one for a keyword find nothing behind another keyword. -/
theorem ValueSpec.find?_before (count : Nat)
    (different : ∀ other ∈ "package" :: (keywordRules.take count).map (·.1),
      keyword.text ≠ other.toList) :
    ∀ rule ∈ package :: groupStart :: (keywordRules.take count).map (·.2),
      rule.pattern.find? (keyword.text ++ ' ' :: spec.text) = none :=
  find?_of_firstWord keyword (by decide)
    _ (spec.find?_of_sign keyword groupStart List.mem_cons_self) count different

end Unmatched

section Several

variable {spec : ValueSpec} (several : spec.others ≠ [])

include several

theorem ValueSpec.exists_comma : ∃ more, spec.text = spec.first.text ++ ',' :: more := by
  obtain ⟨next, others, split⟩ := List.exists_cons_of_ne_nil several
  refine ⟨' ' :: (next.text ++ furtherNames others ++ spec.rest), ?_⟩
  rw [ValueSpec.text, ValueSpec.namesText, split, List.append_assoc]
  rfl

theorem ValueSpec.constants_find?_eq_none :
    constants.pattern.find? (constWord.text ++ ' ' :: spec.text) = none := by
  obtain ⟨more, spelled⟩ := ValueSpec.exists_comma several
  have ahead : (constWord.text ++ ' ' :: spec.text).find? (!wordOr [' '] ·) = some ',' := by
    have skipped : ∀ c ∈ constWord.text ++ ' ' :: spec.first.text, wordOr [' '] c = true := by
      rw [List.forall_mem_append, List.forall_mem_cons]
      exact ⟨by decide, rfl, fun c member => by simp [wordOr, spec.first.isWord c member]⟩
    have split :
        constWord.text ++ ' ' :: spec.text =
          (constWord.text ++ ' ' :: spec.first.text) ++ ',' :: more := by
      rw [spelled, List.append_assoc]
      rfl
    rw [split, find?_append_of_skipped skipped]
    rfl
  have anchored : constants.pattern.Anchored := trivial
  have noSign : wordOr [' '] '=' = false := by decide
  have notBlank : Text.isBlank ',' = false := by decide
  have notWord : Text.isWord ',' = false := by decide
  have notType : wordOr ['.', '*', '[', ']'] ',' = false := by decide
  refine anchored.find?_eq_none (blocked_of_not_meets ?_ ahead ?_)
  · simp [constants, noSign]
  · simp [constants, optionalType, typeName, notBlank, notWord, notType]

/-- The rule for fields takes the keyword for a name and turns the line down. -/
theorem ValueSpec.field_finds :
    field.pattern.Finds (constWord.text ++ ' ' :: spec.text)
      [(.type, spec.first.text), (.names, constWord.text)] := by
  obtain ⟨more, spelled⟩ := ValueSpec.exists_comma several
  obtain ⟨c, others, split, word⟩ := spec.first.exists_first
  have notComma : c ≠ ',' := by
    rintro rfl
    exact absurd word (by decide)
  have inType : ∀ d ∈ spec.first.text, wordOr ['.', '*', '[', ']'] d = true :=
    fun d member => by simp [wordOr, spec.first.isWord d member]
  have named :=
    takes_nameList constWord (Text.isBlank_eq_false_of_isWord word) notComma []
      (others ++ ',' :: more) []
  rw [← List.cons_append, ← split] at named
  rw [spelled]
  exact ((((takes_lineStart _ []).append (named.capture .names)).append
    (spec.first.takes_space _ _ _)).append
    ((takes_many1 spec.first.nonempty inType (stops_before (by decide) more) _ _).capture
      .type)).finds

end Several

/-!
## Steps
-/

namespace ValueSpec

variable (spec : ValueSpec)

/-- What is reported of one of the names. -/
def declaration (kind : Kind) (scope : String) (name : Word) : Declaration where
  name := name.name
  kind := kind
  scope := scope
  dataType := spec.type.map fun type => String.ofList type.text

/-- What a list of names declares: all of them but the blank one. -/
def declarations (kind : Kind) (scope : String) : List Declaration :=
  (spec.names.filter fun name => name.text != ['_']).map (spec.declaration kind scope)

/-- What a declaration on its own line declares: where it is a constant, a single name, be it the
blank one. -/
def separateDeclarations (scope : String) : ValueKind → List Declaration
  | .plainVariable => spec.declarations .variable scope
  | .constant => if spec.others = [] then [spec.declaration .constant scope spec.first] else []

theorem text?_names : spec.captures.text? .names = some spec.namesText := by
  rw [captures]
  cases spec.type with
  | none => rfl
  | some type => rfl

private theorem declarations_line (kind : Kind) (scope : String) :
    spec.line.declarations kind scope = spec.declarations kind scope := by
  have each : spec.line.declaration kind scope = spec.declaration kind scope := by
    funext name
    rw [SpecLine.declaration, declaration, line, Option.map_map]
    rfl
  rw [SpecLine.declarations, spec.names_line, each, declarations]

theorem declaration_of? (kind : Kind) (scope : String) (name : Word) :
    Declaration.of? scope kind name.text (spec.type.map TypeWord.text) =
      some (spec.declaration kind scope name) := by
  rw [name.declaration_of?, declaration]
  cases spec.type with
  | none => rfl
  | some type => simp [type.cleanName?_text]

theorem filterMap_identifiers (kind : Kind) (scope : String) :
    ((identifiers spec.namesText).filterMap fun name =>
      Declaration.of? scope kind name (spec.captures.text? .type)) =
      spec.declarations kind scope := by
  rw [← spec.namesText_line, ← spec.captures_line, ← spec.declarations_line]
  exact spec.line.filterMap_identifiers kind scope

theorem ne_closingBrace (leading : List Char) : leading ++ spec.text ≠ ['}'] := by
  obtain ⟨c, more, split, -⟩ := spec.exists_rest
  intro same
  have space : ' ' ∈ leading ++ spec.text := by
    rw [text, split]
    simp
  rw [same] at space
  exact absurd space (by decide)

variable {number : Nat} {context : Context}

/-- In a group of constants or variables. -/
theorem step_inside {kind : Kind} (inside : groupKind? context.group = some kind) :
    context.step .go ⟨number, spec.text⟩ =
      context.apply .go number
        { declarations := spec.declarations kind context.scopes.current } := by
  rw [← spec.text_line, ← spec.declarations_line]
  exact spec.line.step_inside inside

theorem step_variable (outside : context.group = none) :
    context.step .go ⟨number, varWord.text ++ ' ' :: spec.text⟩ =
      context.apply .go number
        { declarations := spec.declarations .variable context.scopes.current } := by
  refine step_outside_of_ne outside _ plainVariables _ rfl (spec.find?_before varWord 4 (by decide))
    spec.plainVariables_finds ?_ rfl
    (by simpa using spec.ne_closingBrace (varWord.text ++ [' ']))
  simp only [plainVariables, spec.text?_names]
  change some ({ declarations := _ } : Effect) = _
  rw [spec.filterMap_identifiers]

theorem step_constant (outside : context.group = none) (single : spec.others = []) :
    context.step .go ⟨number, constWord.text ++ ' ' :: spec.text⟩ =
      context.apply .go number { declarations :=
        [spec.declaration .constant context.scopes.current spec.first] } := by
  refine step_outside_of_ne outside _ constants _ rfl (spec.find?_before constWord 3 (by decide))
    (spec.constants_finds single) ?_ rfl
    (by simpa using spec.ne_closingBrace (constWord.text ++ [' ']))
  have named :
      Captures.text? (typeCaptures spec.type ++ [(.name, spec.first.text)]) .name =
        some spec.first.text := by
    cases spec.type with
    | none => rfl
    | some type => rfl
  simp only [constants, named]
  change some (Effect.ofDeclarations
    (Declaration.of? context.scopes.current .constant spec.first.text _).toList) = _
  rw [text?_type _ (by decide), spec.declaration_of?]
  rfl

/-- A constant with several names is passed on by every rule. -/
theorem step_severalConstants (outside : context.group = none) (several : spec.others ≠ []) :
    context.step .go ⟨number, constWord.text ++ ' ' :: spec.text⟩ = context := by
  have leading := spec.find?_before constWord 3 (by decide)
  have signs := spec.find?_of_sign constWord
  have noVariable : plainVariables.pattern.find? (constWord.text ++ ' ' :: spec.text) = none :=
    find?_of_otherKeyword constWord (by decide) _ ("var", plainVariables) (by simp [keywordRules])
      (by decide)
  have unmatched : ∀ rule ∈ package :: groupStart :: (keywordRules.take 3).map (·.2) ++
      [constants, plainVariables, shortVariables, interfaceMethod],
      rule.pattern.find? (constWord.text ++ ' ' :: spec.text) = none := by
    refine List.forall_mem_append.mpr ⟨leading, ?_⟩
    rw [List.forall_mem_cons, List.forall_mem_cons, List.forall_mem_cons, List.forall_mem_singleton]
    exact ⟨ValueSpec.constants_find?_eq_none several, noVariable, signs shortVariables (by simp),
      signs interfaceMethod (by simp)⟩
  have turnedDown :
      field.effect? [(.type, spec.first.text), (.names, constWord.text)]
        (constWord.text ++ ' ' :: spec.text)
      context = none := by
    have isKeyword : (identifiers constWord.text).any isKeyword = true := by decide
    change (if (decide (context.scopes.currentKind ≠ .classType) ||
      (identifiers constWord.text).any Rules.Go.isKeyword) = true
      then none else _) = none
    rw [isKeyword, Bool.or_true, if_pos rfl]
  have cascade : Language.go.rules.cascade = [groupEnd, groupImport, groupSpec] ++
      (package :: groupStart :: (keywordRules.take 3).map (·.2) ++
        [constants, plainVariables, shortVariables, interfaceMethod] ++
        [field]) := rfl
  refine Context.step_of_all_passed rfl
    (by simpa using spec.ne_closingBrace (constWord.text ++ [' '])) ?_
  rw [cascade, List.forall_mem_append, List.forall_mem_append, List.forall_mem_singleton]
  exact ⟨fun rule member => Context.tryLine_of_declines fun captures =>
    decline_outside outside captures rule member,
    fun rule member => Context.tryLine_of_find?_eq_none (unmatched rule member),
    Context.tryLine_of_finds (ValueSpec.field_finds several) turnedDown⟩

theorem step_separate (outside : context.group = none) (kind : ValueKind) :
    context.step .go ⟨number, kind.keyword.text ++ ' ' :: spec.text⟩ =
      context.adding ((spec.separateDeclarations context.scopes.current kind).map
        (·.toSymbol .go number)) := by
  cases kind with
  | plainVariable =>
    exact (spec.step_variable outside).trans (context.apply_declarations .go number _ true)
  | constant =>
    rw [separateDeclarations]
    split
    · next single => exact spec.step_constant outside single
    · next several =>
        exact (spec.step_severalConstants outside several).trans (context.adding_nil).symm

end ValueSpec

namespace ImportSpec

variable (spec : ImportSpec)

/-- The texts that a match keeps of an import. -/
def captures : Captures :=
  match spec.binding with
  | none => [(.path, spec.path)]
  | some binding => [(.path, spec.path), (.binding, binding.text)]

private theorem text?_path : spec.captures.text? .path = some spec.path := by
  rw [captures]
  cases spec.binding with
  | none => rfl
  | some binding => rfl

private theorem text?_binding : spec.captures.text? .binding = spec.binding.map Binding.text := by
  rw [captures]
  cases spec.binding with
  | none => rfl
  | some binding => rfl

private theorem takes_quoted (before : List Char) (captures : Captures) :
    ∃ later, (char '"' ++ (capture .path (many1 (noneOf ['"'])) ++ char '"')).Takes
      ⟨before, '"' :: (spec.path ++ ['"'])⟩ later
      captures ((.path, spec.path) :: captures) := by
  have inside : ∀ c ∈ spec.path, noneOf ['"'] c = true := by
    intro c member
    have different : c ≠ '"' := fun same => spec.unquoted (same ▸ member)
    simpa [noneOf] using different
  exact ⟨_, (takes_literal ['"'] before _ captures).append
    (((takes_many1 spec.nonempty inside (stops_before (by decide) []) _ _).capture .path).append
      (takes_literal ['"'] _ [] _))⟩

theorem takes_text (before : List Char) :
    ∃ later, importedPath.Takes ⟨before, spec.text⟩ later [] spec.captures := by
  cases bound : spec.binding with
  | none =>
    have unbound :
        (capture .binding (many1 (wordOr ['.'])) ++ blanks1).Blocked
          ⟨before, '"' :: (spec.path ++ ['"'])⟩ := by
      have quote : wordOr ['.'] '"' = false := by decide
      exact blocked_of_next (by simp) (by simp [quote]) before _
    obtain ⟨later, quoted⟩ := spec.takes_quoted before []
    rw [text, captures, bound]
    exact ⟨later, ((takes_optional_nothing unbound []).append quoted).assoc.assoc⟩
  | some binding =>
    obtain ⟨later, quoted⟩ :=
      spec.takes_quoted (' ' :: (binding.text.reverse ++ before)) [(.binding, binding.text)]
    have named := (takes_many1 binding.nonempty binding.inBinding
      (stops_before (c := ' ') (by decide) ('"' :: (spec.path ++ ['"']))) before []).capture
        .binding
    have front := (named.append (takes_blanks1_space (stops_before (by decide) _) _ _)).optionally
    rw [text, captures, bound]
    exact ⟨later, (front.append quoted).assoc.assoc⟩

theorem groupImport_finds : groupImport.pattern.Finds spec.text spec.captures := by
  obtain ⟨later, read⟩ := spec.takes_text []
  have whole : groupImport.pattern.Takes ⟨[], spec.text⟩ later [] spec.captures :=
    (takes_lineStart _ []).append read
  exact whole.finds

/-- An import starts with a quote or with the name before it. -/
theorem exists_first : ∃ c rest, spec.text = c :: rest ∧ wordOr ['.', '"'] c = true := by
  cases bound : spec.binding with
  | none => exact ⟨'"', spec.path ++ ['"'], by rw [text, bound], by decide⟩
  | some binding =>
    obtain ⟨c, others, split⟩ := List.exists_cons_of_ne_nil binding.nonempty
    have inBinding := binding.inBinding c (by rw [split]; exact List.mem_cons_self)
    refine ⟨c, others ++ ' ' :: '"' :: (spec.path ++ ['"']), ?_, ?_⟩
    · rw [text, bound]
      dsimp only
      rw [split]
      rfl
    · rw [wordOr, Bool.or_eq_true] at inBinding ⊢
      refine inBinding.imp_right fun sign => ?_
      have isDot : c = '.' := by simpa using sign
      rw [isDot]
      rfl

private theorem isBlank_head? : ∀ c ∈ spec.text.head?, Text.isBlank c = false := by
  obtain ⟨c, rest, split, belongs⟩ := spec.exists_first
  rw [split]
  exact stops_before (isBlank_of_wordOr (by decide) belongs) rest

theorem imports_finds :
    imports.pattern.Finds (importWord.text ++ ' ' :: spec.text) spec.captures := by
  have start :=
    ((takes_lineStart (importWord.text ++ ' ' :: spec.text) []).append
      (takes_literal "import".toList _ _ _)).append
    (takes_blanks1_space spec.isBlank_head? _ _)
  obtain ⟨later, read⟩ := spec.takes_text (' ' :: "import".toList.reverse)
  have whole :
      imports.pattern.Takes ⟨[], importWord.text ++ ' ' :: spec.text⟩ later [] spec.captures :=
    start.append read
  exact whole.finds

theorem ne_closingBrace (leading : List Char) : leading ++ spec.text ≠ ['}'] := by
  intro same
  have quote : '"' ∈ leading ++ spec.text := by
    rw [text]
    cases spec.binding <;> simp
  rw [same] at quote
  exact absurd quote (by decide)

/-- The first character behind the names is a quote or a dot. -/
theorem exists_sign :
    ∃ c ∈ ['"', '.'], (importWord.text ++ ' ' :: spec.text).find? (!inNames ·) = some c := by
  have behind :
      (importWord.text ++ ' ' :: spec.text).find? (!inNames ·) = spec.text.find? (!inNames ·) := rfl
  rw [behind]
  cases bound : spec.binding with
  | none => exact ⟨'"', by decide, by rw [text, bound]; rfl⟩
  | some binding =>
    have spelled : spec.text = binding.text ++ ' ' :: '"' :: (spec.path ++ ['"']) := by
      rw [text, bound]
    rw [spelled]
    exact exists_sign_of_wordOr binding.inBinding (by decide) (spec.path ++ ['"'])

variable {number : Nat} {context : Context}

/-- What an import declares. -/
def declarations : List Declaration :=
  (importEffect (spec.binding.map Binding.text) spec.path).declarations

theorem step_inside (inside : context.group = some .imports) :
    context.step .go ⟨number, spec.text⟩ =
      context.apply .go number { declarations := spec.declarations } := by
  have notEnd : groupEnd.pattern.find? spec.text = none := by
    obtain ⟨c, rest, split, belongs⟩ := spec.exists_first
    have notParen : c ≠ ')' := by
      rintro rfl
      exact absurd belongs (by decide)
    rw [split]
    exact groupEnd_find?_eq_none notParen rest
  have passed :
      ∀ other ∈ [groupEnd], other.tryLine .go number spec.text context = (context, false) :=
    List.forall_mem_singleton.mpr (Context.tryLine_of_find?_eq_none notEnd)
  refine Context.step_of_passed [groupEnd] groupImport _ rfl passed (List.forall_mem_nil _)
    spec.groupImport_finds ?_ rfl
    (spec.ne_closingBrace [])
  simp only [groupImport, inside, spec.text?_path, spec.text?_binding]
  rfl

theorem step_separate (outside : context.group = none) :
    context.step .go ⟨number, importWord.text ++ ' ' :: spec.text⟩ =
      context.apply .go number { declarations := spec.declarations } := by
  obtain ⟨c, sign, ahead⟩ := spec.exists_sign
  have plain : ∀ c ∈ ['"', '.'], Text.isBlank c = false ∧ c ≠ '(' := by decide
  have unmatched := find?_of_firstWord importWord (c := ' ') (by decide) spec.text
    (groupStart_find?_eq_none ahead (plain c sign).1 (plain c sign).2) 0 (by decide)
  refine step_outside_of_ne outside _ imports _ rfl unmatched spec.imports_finds ?_ rfl
    (by simpa using spec.ne_closingBrace (importWord.text ++ [' ']))
  simp only [imports, spec.text?_path, spec.text?_binding]
  rfl

end ImportSpec

end Symtab.GoTree
