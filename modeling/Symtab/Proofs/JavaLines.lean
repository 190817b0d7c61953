import Symtab.Proofs.LeadingWords

/-!
# Lines of a Java program

What a line of each form does to a scan, for any modifiers in front of it and any names. A method's
modifiers are all read as such. A constructor has no type, so that the reading of all its modifiers
leads nowhere and the last one is given back.
-/

set_option autoImplicit false

namespace Symtab

namespace Rules.Java

open Pattern

def declaringWords : List String :=
  ["class", "interface", "enum", "record"]

/-- A name or type that is no word of the language. -/
structure PlainName extends AsciiWord where
  notStatement : isStatementKeyword text = false
  notModifier : isAmong modifiers text = false
  notDeclaring : isAmong declaringWords text = false

def classLine (leading : List (WordOf modifiers)) (name : PlainName) : List Char :=
  led leading ("class".toList ++ ' ' :: (name.text ++ " \x7b".toList))

def methodLine (leading : List (WordOf methodModifiers)) (type name : PlainName) : List Char :=
  led leading (type.text ++ ' ' :: (name.text ++ "() \x7b".toList))

def constructorLine (leading : List (WordOf methodModifiers)) (last : WordOf methodModifiers)
    (name : PlainName) : List Char :=
  led (leading ++ [last]) (name.text ++ "() \x7b".toList)

def bareConstructorLine (name : PlainName) : List Char :=
  name.text ++ "() \x7b".toList

def variableLine (leading : List (WordOf variableModifiers)) (type name : PlainName) : List Char :=
  led leading (type.text ++ ' ' :: (name.text ++ " = 0;".toList))

/-!
## Lines without a match
-/

private theorem areWords_declaringWords :
    ∀ keyword ∈ declaringWords, keyword ≠ "" ∧ ∀ c ∈ keyword.toList, Text.isWord c = true := by
  decide +kernel

theorem classes_ledBy : classes.pattern.LedBy declaringWords := by
  refine (ledBy_keyword_blanks ?_).append _
  intro before text rest captures kept reads
  exact reads.eq_of_anyText

/-- The rules before that for classes look for the word that the line starts with. -/
theorem find?_of_firstWord (first : AsciiWord) {c : Char} (edge : Text.isWord c = false)
    (different : ∀ keyword ∈ ["package", "import"], first.text ≠ keyword.toList)
    (rest : List Char) :
    ∀ rule ∈ [package, imports], rule.pattern.find? (first.text ++ c :: rest) = none := by
  have packageAnchored : package.pattern.Anchored := trivial
  have importsAnchored : imports.pattern.Anchored := trivial
  have blocked : ∀ keyword ∈ ["package", "import"],
      (lineStart ++ text keyword ++ blanks1).Blocked ⟨[], first.text ++ c :: rest⟩ := by
    have areWords :
        ∀ keyword ∈ ["package", "import"], ∀ d ∈ keyword.toList, Text.isWord d = true := by
      decide +kernel
    exact fun keyword member => first.blocked_of_otherKeyword (areWords keyword member) edge
      (different keyword member) rest
  rw [List.forall_mem_cons, List.forall_mem_singleton]
  constructor
  · exact packageAnchored.find?_eq_none
      ((((blocked "package" (by decide)).append _).append _).append _)
  · exact importsAnchored.find?_eq_none
      (((((blocked "import" (by decide)).append _).append _).append _).append _ |>.append _)

private theorem find?_led {words : List String}
    (apart : ∀ keyword ∈ ["package", "import"], keyword ∉ words) (leading : List (WordOf words))
    (name : AsciiWord) {c : Char} (edge : Text.isWord c = false)
    (different : ∀ keyword ∈ ["package", "import"], name.text ≠ keyword.toList) (rest : List Char) :
    ∀ rule ∈ [package, imports], rule.pattern.find? (led leading (name.text ++ c :: rest)) =
      none := by
  cases leading with
  | nil => exact find?_of_firstWord name edge different rest
  | cons word leading =>
    exact find?_of_firstWord word.toAsciiWord (by decide)
      (fun keyword member => word.ne (apart keyword member)) _

theorem PlainName.ne_header (name : PlainName) :
    ∀ keyword ∈ ["package", "import"], name.text ≠ keyword.toList := by
  intro keyword member
  refine ne_of_isAmong_eq_false name.notStatement ?_
  have isStatement : ∀ keyword ∈ ["package", "import"], keyword ∈ statementKeywords := by decide
  exact isStatement keyword member

theorem PlainName.ne_declaring (name : PlainName) :
    ∀ keyword ∈ declaringWords, keyword.toList ≠ name.text :=
  fun _ member => (ne_of_isAmong_eq_false name.notDeclaring member).symm

private theorem classes_find?_led {words : List String}
    (apart : ∀ keyword ∈ declaringWords, keyword ∉ words) (leading : List (WordOf words))
    {rest : List Char} (absent : ∀ keyword ∈ declaringWords, keyword.toList ∉ wordsIn rest) :
    classes.pattern.find? (led leading rest) = none := by
  refine find?_eq_none_of_ledBy classes_ledBy areWords_declaringWords fun keyword member => ?_
  rw [wordsIn_led, List.mem_append, not_or]
  refine ⟨fun inFront => ?_, absent keyword member⟩
  obtain ⟨word, _, same⟩ := List.mem_map.mp inFront
  exact word.ne (apart keyword member) same

/-- Names with fixed text after them hold no word that declares a type. -/
theorem PlainName.not_mem_wordsIn (name : PlainName) {c : Char} (edge : Text.isWord c = false)
    {rest : List Char} (absent : ∀ keyword ∈ declaringWords, keyword.toList ∉ wordsIn rest) :
    ∀ keyword ∈ declaringWords, keyword.toList ∉ wordsIn (name.text ++ c :: rest) := by
  intro keyword member
  rw [wordsIn_append_cons name.isWord edge, List.mem_cons, not_or]
  exact ⟨name.ne_declaring keyword member, absent keyword member⟩

/-- A word with a parenthesis after it is neither a type nor a modifier. -/
theorem method_find?_bare (name : AsciiWord) (rest : List Char) :
    method.pattern.find? (name.text ++ '(' :: rest) = none := by
  have anchored : method.pattern.Anchored := trivial
  have noParen : wordOr ['.'] '(' = false := by decide
  have noAngle : Text.isWord '<' = false := by decide
  have noBracket : Text.isWord '[' = false := by decide
  have noBlank : Text.isBlank '(' = false := by decide
  refine anchored.find?_eq_none (name.blocked_of_break ?_ (by decide) ?_ [] rest)
  · simp [method, Text.not_exists_blank_word]
  · simp [method, leadingWords, typeName, brackets, methodModifiers, anyText,
      Text.not_exists_blank_word, noParen, noAngle, noBracket, noBlank]

theorem find?_of_no_paren {line : List Char} (absent : '(' ∉ line) :
    ∀ rule ∈ [method, bareConstructor], rule.pattern.find? line = none := by
  have requires : ∀ rule ∈ [method, bareConstructor], rule.pattern.Requires (· = '(') := by
    simp only [List.forall_mem_cons, method, bareConstructor]
    simp
  intro rule member
  exact find?_eq_none_of_requires (requires rule member) fun c inLine same => absent (same ▸ inLine)

/-!
## Matches
-/

theorem classes_finds (leading : List (WordOf modifiers)) (name : PlainName) :
    classes.pattern.Finds (classLine leading name) [(.name, name.text)] := by
  have apart : ∀ keyword ∈ declaringWords, keyword ∉ modifiers := by decide
  have atStart : ∀ c ∈ ([] : List Char).head?, Text.isWord c = false := by simp
  obtain ⟨behind, edge, search⟩ :=
    classes_ledBy.exists_findFrom?_led areWords_declaringWords apart leading
    ("class".toList ++ ' ' :: (name.text ++ " \x7b".toList)) atStart
  have noWordBehind : behind.head?.any Text.isWord = false := by
    cases nearest : behind.head? with
    | none => rfl
    | some c => exact edge c nearest
  have atEdge :
      Cursor.atWordEdge ⟨behind, "class".toList ++ ' ' :: (name.text ++ " \x7b".toList)⟩ =
        true := by
    rw [Cursor.atWordEdge, noWordBehind]
    rfl
  have keyword : (anyText ["class", "interface", "enum", "record"]).Takes
      ⟨behind, "class".toList ++ ' ' :: (name.text ++ " \x7b".toList)⟩ _ [] [] :=
    .firstChoice (takes_literal "class".toList _ _ _)
  have taken := (((takes_wordEdge atEdge []).append keyword).append (name.takes_space _ _ _)).append
    ((name.takes_word (by decide) _ _).capture .name)
  exact ⟨_, search.trans taken.findFrom?, rfl⟩

/-- What a method's line goes on with behind its modifiers. -/
def methodTail : Pattern :=
  optional (char '<' ++ many1 (noneOf ['>']) ++ char '>' ++ blanks1) ++
    (capture .type typeName ++ (blanks1 ++ (capture .name word ++ (blanks ++ char '('))))

theorem takes_typeName (type : AsciiWord) (before rest : List Char) (captures : Captures) :
    typeName.Takes ⟨before, type.text ++ ' ' :: rest⟩ ⟨type.text.reverse ++ before, ' ' :: rest⟩
      captures captures := by
  have inside : ∀ c ∈ type.text, wordOr ['.'] c = true := by
    intro c member
    rw [wordOr, type.isWord c member, Bool.true_or]
  have noArguments : (char '<' ++ many (noneOf ['=', ';', '(']) ++ char '>').Blocked
      ⟨type.text.reverse ++ before, ' ' :: rest⟩ := blocked_of_next (by simp) (by simp) _ _
  have noBrackets : (text "[]").Blocked ⟨type.text.reverse ++ before, ' ' :: rest⟩ :=
    blocked_of_next (by simp) (by simp) _ _
  exact ((takes_many1 type.nonempty inside (stops_before (by decide) rest) before captures).append
    (takes_optional_nothing noArguments captures)).append
      (takes_repeated_nothing noBrackets captures)

private theorem exists_takes_methodTail (type name : AsciiWord) (before : List Char) :
    ∃ later, methodTail.Takes ⟨before, type.text ++ ' ' :: (name.text ++ "() \x7b".toList)⟩ later []
      [(.name, name.text), (.type, type.text)] := by
  have noParameters : (char '<' ++ many1 (noneOf ['>']) ++ char '>' ++ blanks1).Blocked
      ⟨before, type.text ++ ' ' :: (name.text ++ "() \x7b".toList)⟩ := by
    refine type.blocked_of_next (by simp) (fun c member => ?_) _ _
    have notAngle : '<' ≠ c := fun same => type.not_mem (by decide) (same ▸ member)
    simp [notAngle]
  exact ⟨_, (takes_optional_nothing noParameters []).append
    (((takes_typeName type _ _ _).capture .type).append
    ((name.takes_space _ _ _).append (((name.takes_word (by decide) _ _).capture .name).append
      ((takes_blanks_nil (by decide) _ _).append (takes_literal ['('] _ _ _)))))⟩

private theorem isWord_methodModifiers :
    ∀ word ∈ methodModifiers, ∀ c ∈ word.toList, Text.isWord c = true := by
  decide +kernel

private theorem isWord_variableModifiers :
    ∀ word ∈ variableModifiers, ∀ c ∈ word.toList, Text.isWord c = true := by
  decide +kernel

theorem method_finds (leading : List (WordOf methodModifiers)) (type name : PlainName) :
    method.pattern.Finds (methodLine leading type name)
      [(.name, name.text), (.type, type.text)] := by
  have unlisted : isAmong methodModifiers type.text = false :=
    isAmong_eq_false_of_subset (by decide) type.notModifier
  have onward : ∀ before, ∃ later, (repeated (leadingWord methodModifiers) ++ methodTail).Takes
      ⟨before, type.text ++ ' ' :: (name.text ++ "() \x7b".toList)⟩ later []
        [(.name, name.text), (.type, type.text)] := by
    intro before
    obtain ⟨later, tail⟩ := exists_takes_methodTail type.toAsciiWord name.toAsciiWord before
    exact ⟨later, .repeatedNone (blocked_leadingWord isWord_methodModifiers unlisted (by decide)
      before _) tail⟩
  obtain ⟨later, taken⟩ :=
    exists_takes_led isWord_methodModifiers (type.isBlank_head?_append _) onward leading []
  have whole :
      method.pattern.Takes ⟨[], methodLine leading type name⟩ later []
        [(.name, name.text), (.type, type.text)] :=
    (takes_lineStart _ []).append taken
  exact whole.finds

/-- With the last modifier read as such, its name is all that is left of a constructor in front of
the parenthesis. -/
theorem allModifiers_blocked (last name : AsciiWord) (before : List Char) :
    (leadingWord methodModifiers ++ (repeated (leadingWord methodModifiers) ++ methodTail)).Blocked
      ⟨before, last.text ++ ' ' :: (name.text ++ '(' :: ") \x7b".toList)⟩ := by
  refine blocked_append fun text rest captures kept split reads => ?_
  obtain ⟨_, gap, blank, nonempty, rfl⟩ :=
    reads.eq_of_leadingWord isWord_methodModifiers (by decide) split
  rw [List.append_assoc] at split
  obtain ⟨rfl, rfl⟩ := name.blank_run (List.append_cancel_left split) nonempty blank
  have noParen : wordOr ['.'] '(' = false := by decide
  have noAngle : Text.isWord '<' = false := by decide
  have noBracket : Text.isWord '[' = false := by decide
  have noBlank : Text.isBlank '(' = false := by decide
  refine name.blocked_of_break ?_ (by decide) ?_ _ _
  · simp [methodTail, Text.not_exists_blank_word]
  · simp [methodTail, typeName, brackets, methodModifiers, anyText, Text.not_exists_blank_word,
      noParen, noAngle, noBracket, noBlank]

private theorem constructor_finds (leading : List (WordOf methodModifiers))
    (last : WordOf methodModifiers) (name : PlainName) :
    method.pattern.Finds (constructorLine leading last name)
      [(.name, name.text), (.type, last.text)] := by
  have onward : ∀ before, ∃ later, (repeated (leadingWord methodModifiers) ++ methodTail).Takes
      ⟨before, last.text ++ ' ' :: (name.text ++ "() \x7b".toList)⟩ later []
        [(.name, name.text), (.type, last.text)] := by
    intro before
    obtain ⟨later, tail⟩ := exists_takes_methodTail last.toAsciiWord name.toAsciiWord before
    have blocked := allModifiers_blocked last.toAsciiWord name.toAsciiWord before
    exact ⟨later, .repeatedGiveBack (leadingWord_stuck methodModifiers) blocked tail⟩
  obtain ⟨later, taken⟩ :=
    exists_takes_led isWord_methodModifiers (last.isBlank_head?_append _) onward leading []
  have whole :
      method.pattern.Takes ⟨[], led leading (last.text ++ ' ' :: (name.text ++ "() \x7b".toList))⟩
        later [] [(.name, name.text), (.type, last.text)] :=
    (takes_lineStart _ []).append taken
  rw [constructorLine, led_append]
  exact whole.finds

private theorem bareConstructor_finds (name : PlainName) :
    bareConstructor.pattern.Finds (bareConstructorLine name) [(.name, name.text)] := by
  change bareConstructor.pattern.Finds (name.text ++ '(' :: (')' :: (' ' :: ['{']))) _
  have noParameters :
      ∀ before : List Char, (many (noneOf [')'])).Takes ⟨before, ')' :: (' ' :: ['{'])⟩
        ⟨before, ')' :: (' ' :: ['{'])⟩
      [(.name, name.text)] [(.name, name.text)] :=
        fun before => takes_many_nil (stops_before (by decide) _) before _
  have gap :
      ∀ before : List Char, blanks.Takes ⟨before, ' ' :: ['{']⟩ ⟨' ' :: before, ['{']⟩
        [(.name, name.text)]
      [(.name, name.text)] := fun before => takes_blanks_space (stops_before (by decide) _) before _
  have throwsNothing : ∀ before : List Char,
      (text "throws" ++ blanks1 ++ many1 fun c => wordOr ['.', ','] c || Text.isBlank c).Blocked
        ⟨before, ['{']⟩ :=
    fun before => blocked_of_next (by simp) (by simp) before []
  have brace :
      ∀ before : List Char, (optional (char '{') ++ lineEnd).Takes ⟨before, ['{']⟩
        ⟨'{' :: before, []⟩
      [(.name, name.text)] [(.name, name.text)] :=
    fun before => .optionalThen ((takes_literal ['{'] before [] _).append (takes_lineEnd _ _))
  have start := ((takes_lineStart _ []).append
    ((name.takes_word (stops_before (c := '(') (by decide) (')' :: (' ' :: ['{']))) _ _).capture
      .name)).append
    (takes_blanks_nil (stops_before (by decide) _) _ _)
  have parentheses :=
    ((start.append (takes_literal ['('] _ _ _)).append (noParameters _)).append
      (takes_literal [')'] _ _ _)
  exact (((parentheses.append (gap _)).append (takes_optional_nothing (throwsNothing _) _)).append
    (brace _)).assoc.finds

def variableTail : Pattern :=
  capture .type typeName ++ (blanks1 ++
    (capture .name word ++ (blanks ++ (brackets ++ (blanks ++ one (oneOf ['=', ';', ',']))))))

theorem plainVariables_finds (leading : List (WordOf variableModifiers)) (type name : PlainName) :
    plainVariables.pattern.Finds (variableLine leading type name)
      [(.name, name.text), (.type, type.text)] := by
  have unlisted : isAmong variableModifiers type.text = false :=
    isAmong_eq_false_of_subset (by decide) type.notModifier
  have onward : ∀ before, ∃ later, (repeated (leadingWord variableModifiers) ++ variableTail).Takes
      ⟨before, type.text ++ ' ' :: (name.text ++ ' ' :: ('=' :: " 0;".toList))⟩ later []
      [(.name, name.text), (.type, type.text)] := by
    intro before
    have noBrackets : ∀ before : List Char, (text "[]").Blocked ⟨before, '=' :: " 0;".toList⟩ :=
      fun before => blocked_of_next (by simp) (by simp) before _
    exact ⟨_,
      .repeatedNone (blocked_leadingWord isWord_variableModifiers unlisted (by decide) before _)
      (((takes_typeName type.toAsciiWord _ _ _).capture .type).append
        ((name.takes_space _ _ _).append
        (((name.takes_word (stops_before (by decide) _) _ _).capture .name).append
          ((takes_blanks_space (stops_before (by decide) _) _ _).append
            ((takes_repeated_nothing (noBrackets _) _).append
            ((takes_blanks_nil (stops_before (by decide) _) _ _).append
              (takes_one (by decide) _ _ _)))))))⟩
  obtain ⟨later, taken⟩ :=
    exists_takes_led isWord_variableModifiers (type.isBlank_head?_append _) onward leading []
  have whole : plainVariables.pattern.Takes ⟨[], variableLine leading type name⟩ later []
      [(.name, name.text), (.type, type.text)] := (takes_lineStart _ []).append taken
  exact whole.finds

/-!
## Steps
-/

def classWord : AsciiWord :=
  ⟨"class".toList, by decide, by decide⟩

private theorem braces_spaced (first second : AsciiWord) (rest : List Char) :
    ∀ c ∈ ['{', '}'], (first.text ++ ' ' :: (second.text ++ rest)).count c = rest.count c := by
  have outside : ∀ c ∈ ['{', '}'], isAsciiWord c = false ∧ c ≠ ' ' := by decide
  intro c member
  exact first.count_spaced second (outside c member).1 (outside c member).2 rest

private theorem braces_append (name : AsciiWord) (rest : List Char) :
    ∀ c ∈ ['{', '}'], (name.text ++ rest).count c = rest.count c := by
  have outside : ∀ c ∈ ['{', '}'], isAsciiWord c = false := by decide
  exact fun c member => name.count_append (outside c member) rest

/-- No line of these forms has a closing brace. -/
theorem not_mem_led_closing {words : List String} (leading : List (WordOf words))
    {rest finish : List Char} (same : ∀ c ∈ ['{', '}'], rest.count c = finish.count c)
    (absent : '}' ∉ finish) : '}' ∉ led leading rest := by
  refine not_mem_led leading (by decide) (by decide) ?_
  rw [← List.count_eq_zero, same '}' (by decide), List.count_eq_zero]
  exact absent

theorem step_class (leading : List (WordOf modifiers)) (name : PlainName) (number : Nat)
    (context : Context) :
    context.step .java ⟨number, classLine leading name⟩ =
      context.apply .java number
        { declarations := [{ name := name.name, kind := .classType, scope := context.scopes.current }]
          opens := [⟨name.name, .classType⟩] } := by
  have braces := braces_spaced classWord name.toAsciiWord " \x7b".toList
  have isOpen : opensScope (classLine leading name) = true :=
    opensScope_led leading braces (by decide)
  have unmatched :
      ∀ rule ∈ [package, imports], rule.pattern.find? (classLine leading name) = none :=
    find?_led (by decide) leading classWord (by decide) (by decide) _
  refine Context.step_of_claims_unchecked rfl [package, imports] classes
    [method, bareConstructor, plainVariables] rfl unmatched
    (classes_finds leading name) ?_ rfl (not_mem_led_closing leading braces (by decide))
  change some ({ declarations :=
    (Declaration.of? context.scopes.current .classType name.text).toList
                 opens :=
                   Scope.openedIf (opensScope (classLine leading name)) name.text .classType } :
                     Effect) = _
  rw [name.declaration_of?, name.scope_openedIf isOpen]
  rfl

/-- What the rules before that for methods make of a line behind its modifiers. -/
theorem find?_beforeMethod {words : List String}
    (apart : ∀ keyword ∈ ["package", "import"] ++ declaringWords, keyword ∉ words)
    (leading : List (WordOf words)) (name : PlainName) {c : Char} (edge : Text.isWord c = false)
    {rest : List Char} (absent : ∀ keyword ∈ declaringWords, keyword.toList ∉ wordsIn rest) :
    ∀ rule ∈ [package, imports, classes],
      rule.pattern.find? (led leading (name.text ++ c :: rest)) = none := by
  obtain ⟨noHeader, noDeclaring⟩ := List.forall_mem_append.mp apart
  have early := find?_led noHeader leading name.toAsciiWord edge name.ne_header rest
  have noClass := classes_find?_led noDeclaring leading (name.not_mem_wordsIn edge absent)
  rw [List.forall_mem_cons, List.forall_mem_singleton] at early
  rw [List.forall_mem_cons, List.forall_mem_cons, List.forall_mem_singleton]
  exact ⟨early.1, early.2, noClass⟩

theorem step_method (leading : List (WordOf methodModifiers)) (type name : PlainName) (number : Nat)
    (context : Context) :
    context.step .java ⟨number, methodLine leading type name⟩ =
      context.apply .java number
        { declarations := [
            { name := name.name, kind := .method, scope := context.scopes.current,
              dataType := type.name }]
          opens := [⟨name.name, .function⟩] } := by
  have braces := braces_spaced type.toAsciiWord name.toAsciiWord "() \x7b".toList
  have isOpen : opensScope (methodLine leading type name) = true :=
    opensScope_led leading braces (by decide)
  have unmatched :
      ∀ rule ∈ [package, imports, classes],
        rule.pattern.find? (methodLine leading type name) = none :=
    find?_beforeMethod (by decide) leading type (by decide)
      (name.not_mem_wordsIn (c := '(') (by decide) (by decide +kernel))
  refine Context.step_of_claims_unchecked rfl [package, imports, classes] method
    [bareConstructor, plainVariables] rfl unmatched
    (method_finds leading type name) ?_ rfl (not_mem_led_closing leading braces (by decide))
  change (if (isStatementKeyword type.text || isStatementKeyword name.text) = true then none else
    some ({ declarations := (if isAmong modifiers type.text = true then
                Declaration.of? context.scopes.current .constructor name.text
              else Declaration.of? context.scopes.current .method name.text type.text).toList
            opens :=
              Scope.openedIf (opensScope (methodLine leading type name)) name.text .function } :
                Effect)) = _
  rw [type.notStatement, name.notStatement, type.notModifier, Bool.or_false,
    if_neg Bool.false_ne_true, if_neg Bool.false_ne_true, name.declaration_of?,
    name.scope_openedIf isOpen, Option.bind_some, type.cleanName?_text]
  rfl

theorem step_constructor (leading : List (WordOf methodModifiers)) (last : WordOf methodModifiers)
    (name : PlainName) (number : Nat) (context : Context) :
    context.step .java ⟨number, constructorLine leading last name⟩ =
      context.apply .java number
        { declarations := [{ name := name.name, kind := .constructor, scope := context.scopes.current }]
          opens := [⟨name.name, .function⟩] } := by
  have braces := braces_append name.toAsciiWord "() \x7b".toList
  have isOpen : opensScope (constructorLine leading last name) = true :=
    opensScope_led (leading ++ [last]) braces (by decide)
  have unmatched :
      ∀ rule ∈ [package, imports, classes],
        rule.pattern.find? (constructorLine leading last name) = none :=
    find?_beforeMethod (by decide) (leading ++ [last]) name (c := '(') (by decide)
      (by decide +kernel)
  have isModifier : isAmong modifiers last.text = true ∧ isStatementKeyword last.text = false := by
    have each :
        ∀ word ∈ methodModifiers, isAmong modifiers word.toList = true ∧
        isStatementKeyword word.toList = false := by
      decide +kernel
    obtain ⟨word, member, spelled⟩ := mem_of_isAmong last.listed
    rw [spelled]
    exact each word member
  refine Context.step_of_claims_unchecked rfl [package, imports, classes] method
    [bareConstructor, plainVariables] rfl unmatched
    (constructor_finds leading last name) ?_ rfl
      (not_mem_led_closing (leading ++ [last]) braces (by decide))
  change (if (isStatementKeyword last.text || isStatementKeyword name.text) = true then none else
    some ({ declarations := (if isAmong modifiers last.text = true then
                Declaration.of? context.scopes.current .constructor name.text
              else Declaration.of? context.scopes.current .method name.text last.text).toList
            opens :=
              Scope.openedIf (opensScope (constructorLine leading last name)) name.text
                .function } : Effect)) = _
  rw [isModifier.1, isModifier.2, name.notStatement, name.declaration_of?,
    name.scope_openedIf isOpen]
  rfl

theorem step_bareConstructor (name : PlainName) (number : Nat) {context : Context}
    (inside : context.scopes.innermost = ⟨name.name, .classType⟩) :
    context.step .java ⟨number, bareConstructorLine name⟩ =
      context.apply .java number
        { declarations := [{ name := name.name, kind := .constructor, scope := context.scopes.current }]
          opens := [⟨name.name, .function⟩] } := by
  have braces := braces_append name.toAsciiWord "() \x7b".toList
  have isOpen : opensScope (bareConstructorLine name) = true :=
    opensScope_led ([] : List (WordOf modifiers)) braces (by decide)
  have early :
      ∀ rule ∈ [package, imports, classes], rule.pattern.find? (bareConstructorLine name) = none :=
    find?_beforeMethod (by decide) ([] : List (WordOf modifiers)) name (c := '(') (by decide)
      (by decide +kernel)
  have unmatched :
      ∀ rule ∈ [package, imports, classes] ++ [method],
        rule.pattern.find? (bareConstructorLine name) = none := by
    rw [List.forall_mem_append, List.forall_mem_singleton]
    exact ⟨early, method_find?_bare name.toAsciiWord _⟩
  refine Context.step_of_claims_unchecked rfl ([package, imports, classes] ++ [method])
    bareConstructor [plainVariables] rfl
    unmatched (bareConstructor_finds name) ?_ rfl
      (not_mem_led_closing ([] : List (WordOf modifiers)) braces (by decide))
  have inClass : context.scopes.currentKind = .classType := by rw [ScopeStack.currentKind, inside]
  have named : context.scopes.current = String.ofList name.text := by
    rw [ScopeStack.current, inside]
    rfl
  change (if (decide (context.scopes.currentKind ≠ .classType) ||
    decide (context.scopes.current ≠ String.ofList name.text)) = true
    then none else
    some ({ declarations := (Declaration.of? context.scopes.current .constructor name.text).toList
            opens := Scope.openedIf (opensScope (bareConstructorLine name)) name.text .function } :
              Effect)) = _
  rw [name.declaration_of?, name.scope_openedIf isOpen, if_neg (by simp [inClass, named])]
  rfl

/-- What stands in front of the value of a variable. -/
theorem declarationHead_variableLine (leading : List (WordOf variableModifiers))
    (type name : PlainName) :
    declarationHead (variableLine leading type name) =
      led leading (type.text ++ ' ' :: (name.text ++ [' '])) := by
  have split :
      variableLine leading type name =
        led leading (type.text ++ ' ' :: (name.text ++ [' '])) ++ '=' :: " 0;".toList := by
    rw [← led_append_right]
    simp [variableLine]
  have absent : '=' ∉ led leading (type.text ++ ' ' :: (name.text ++ [' '])) := by
    rw [← List.count_eq_zero, count_led_spaced leading type.toAsciiWord name.toAsciiWord (by decide)
      (by decide)]
    decide
  rw [split, declarationHead_append absent]

private theorem hasWord_final (leading : List (WordOf variableModifiers)) (type name : PlainName) :
    hasWord (declarationHead (variableLine leading type name)) "final" =
      leading.any ("final".toList == ·.text) := by
  have otherName : ∀ name : PlainName, ("final".toList == name.text) = false := fun name =>
    beq_eq_false_iff_ne.mpr (ne_of_isAmong_eq_false name.notModifier (by decide)).symm
  rw [declarationHead_variableLine, hasWord_led, type.hasWord_append_cons (by decide),
    name.hasWord_append_cons (by decide), otherName, otherName]
  have noMore : hasWord [] "final" = false := by decide +kernel
  simp only [noMore, Bool.or_false]

theorem step_variable (leading : List (WordOf variableModifiers)) (type name : PlainName)
    (number : Nat) (context : Context) :
    context.step .java ⟨number, variableLine leading type name⟩ =
      context.apply .java number
        { declarations := [
            { name := name.name
              kind := if leading.any ("final".toList == ·.text) then .constant else .variable
              scope := context.scopes.current
              dataType := type.name }] } := by
  have count (c : Char) (outside : isAsciiWord c = false) (notSpace : c ≠ ' ') :
      (variableLine leading type name).count c = " = 0;".toList.count c :=
    count_led_spaced leading type.toAsciiWord name.toAsciiWord outside notSpace " = 0;".toList
  have early :
      ∀ rule ∈ [package, imports, classes],
        rule.pattern.find? (variableLine leading type name) = none :=
    find?_beforeMethod (by decide) leading type (by decide)
      (name.not_mem_wordsIn (c := ' ') (by decide) (by decide +kernel))
  have noParen : '(' ∉ variableLine leading type name := by
    rw [← List.count_eq_zero, count '(' (by decide) (by decide)]
    decide
  have noClosing : '}' ∉ variableLine leading type name := by
    rw [← List.count_eq_zero, count '}' (by decide) (by decide)]
    decide
  have noParenInHead : (declarationHead (variableLine leading type name)).contains '(' = false := by
    rw [List.contains_eq_mem, decide_eq_false_iff_not]
    exact fun member => noParen ((List.takeWhile_prefix _).subset member)
  refine Context.step_of_claims_unchecked rfl
    ([package, imports, classes] ++ [method, bareConstructor]) plainVariables [] rfl
    (List.forall_mem_append.mpr ⟨early, find?_of_no_paren noParen⟩)
      (plainVariables_finds leading type name) ?_ rfl noClosing
  change (if (isStatementKeyword type.text || isAmong modifiers type.text ||
      (declarationHead (variableLine leading type name)).contains '(') = true then none else
    some ({ declarations := (Declaration.of? context.scopes.current
              (if hasWord (declarationHead (variableLine leading type name)) "final" = true
                then .constant else .variable)
              name.text type.text).toList } : Effect)) = _
  rw [type.notStatement, type.notModifier, noParenInHead, Bool.or_false, Bool.or_false,
    if_neg Bool.false_ne_true, hasWord_final, name.declaration_of?, Option.bind_some,
    type.cleanName?_text]
  rfl

end Rules.Java

end Symtab
