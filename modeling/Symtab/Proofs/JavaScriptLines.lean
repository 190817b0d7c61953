import Symtab.Proofs.LineForms

/-!
# Lines of a JavaScript program

What a line of each form does to a scan, whatever its name. A name may look like a keyword, so each
rule before the one that claims a line is shown to find nothing there, and so are the checks.
-/

set_option autoImplicit false

namespace Symtab

namespace Rules.JavaScript

open Pattern

/-!
## Lines without a match
-/

theorem find?_of_no_paren {line : List Char} (absent : '(' ∉ line) :
    ∀ rule ∈ [function, constructors, method, builtinCall], rule.pattern.find? line = none := by
  have requires :
      ∀ rule ∈ [function, constructors, method, builtinCall], rule.pattern.Requires (· = '(') := by
    simp only [List.forall_mem_cons, function, constructors, method, builtinCall]
    simp
  intro rule member
  exact find?_eq_none_of_requires (requires rule member) fun c inLine same => absent (same ▸ inLine)

theorem find?_of_no_dot {line : List Char} (absent : '.' ∉ line) :
    ∀ rule ∈ table.checks, rule.pattern.find? line = none := by
  have requires : ∀ rule ∈ table.checks, rule.pattern.Requires (· = '.') := by
    simp only [table, List.forall_mem_cons, thisProperty, staticProperty, prototypeMethod,
      builtinCall]
    simp
  intro rule member
  exact find?_eq_none_of_requires (requires rule member) fun c inLine same => absent (same ▸ inLine)

theorem destructuring_find? {line : List Char} (noBrace : '{' ∉ line) (noBracket : '[' ∉ line) :
    destructuring.pattern.find? line = none := by
  have requires : destructuring.pattern.Requires fun c => c = '{' ∨ c = '[' := by
    simp only [destructuring]
    simp [oneOf]
  refine find?_eq_none_of_requires requires fun c member opens => ?_
  rcases opens with rfl | rfl
  · exact noBrace member
  · exact noBracket member

theorem classes_ledBy : classes.pattern.LedBy ["class"] := by
  refine (ledBy_keyword_blanks ?_).append _
  intro before text rest captures kept reads
  exact ⟨"class", List.mem_singleton_self _, reads.1⟩

theorem eq_of_reads_declaringWord (before text rest : List Char) (captures kept : Captures)
    (reads : (capture .keyword (anyText ["let", "const", "var"])).Reads before text rest
      captures kept) :
    ∃ written ∈ ["let", "const", "var"], text = written.toList := by
  obtain ⟨inside, written, _⟩ := reads
  rcases written with ⟨same, _⟩ | ⟨same, _⟩ | ⟨same, _⟩
  · exact ⟨"let", by simp, same⟩
  · exact ⟨"const", by simp, same⟩
  · exact ⟨"var", by simp, same⟩

private theorem plainVariables_ledBy : plainVariables.pattern.LedBy ["let", "const", "var"] :=
  (ledBy_keyword_blanks eq_of_reads_declaringWord).append _

theorem function_ledBy : function.pattern.LedBy ["function"] := by
  have stuck : ¬(blanks ++ (optional (char '*') ++ blanks1)).Passes fun _ => false := by simp
  have unmet :
      ∀ c, Text.isWord c = true →
      ¬(blanks ++ (optional (char '*') ++ blanks1)).Meets (fun _ => false) c := by
    intro c isWord
    have notStar : '*' ≠ c := by
      rintro rfl
      exact absurd isWord (by decide)
    simp [Text.isBlank_eq_false_of_isWord isWord, notStar]
  have keyword :
      (wordEdge ++ text "function" ++ (blanks ++ (optional (char '*') ++ blanks1))).LedBy
        ["function"] := by
    refine ledBy_keyword ?_ stuck unmet
    intro before text rest captures kept reads
    exact ⟨"function", List.mem_singleton_self _, reads.1⟩
  exact (((keyword.assoc.assoc.append _).append _).append _)

private theorem classes_find?_between (name : AsciiWord) (start finish : String)
    (startEdge : ∀ c ∈ start.toList.getLast?, Text.isWord c = false)
    (finishEdge : ∃ c ∈ finish.toList.head?, Text.isWord c = false)
    (absent : "class".toList ∉ wordsIn start.toList ∧ "class".toList ∉ wordsIn finish.toList)
    (itself : classes.pattern.find? (start.toList ++ "class".toList ++ finish.toList) = none) :
    classes.pattern.find? (name.between start finish) = none :=
  name.find?_between_of_ledBy classes_ledBy (by decide) start finish startEdge finishEdge
    (List.forall_mem_singleton.mpr absent)
    (List.forall_mem_singleton.mpr itself)

/-- A keyword and a name are not a name that is assigned to. -/
theorem field_find?_keyword (name : AsciiWord) {keyword : String}
    (isKeyword : keyword ∈ ["let", "const", "var"]) (finish : String) :
    field.pattern.find? (name.between (keyword ++ " ") finish) = none := by
  have anchored : field.pattern.Anchored := trivial
  refine anchored.find?_eq_none ?_
  obtain ⟨c, rest, split⟩ := name.exists_cons
  have first : c ∈ name.text := by rw [split]; exact List.mem_cons_self
  have notBlank := name.isBlank c first
  have notAssign : '=' ≠ c := fun same => name.not_mem (by decide) (same ▸ first)
  have notEnd : ';' ≠ c := fun same => name.not_mem (by decide) (same ▸ first)
  rw [AsciiWord.between, split]
  intro α captures next
  simp only [List.mem_cons, List.not_mem_nil, or_false] at isKeyword
  -- The words before the name are fixed, so the reader can be run on them.
  rcases isKeyword with rfl | rfl | rfl
  all_goals
    simp +decide [field, memberName, Pattern.optional, Pattern.word, many1, blanks, char, text,
      read_append, read_orElse, Pattern.read, Cursor.skip?, Cursor.reach, Cursor.reachOver,
      notBlank, notAssign, notEnd]

/-!
## Matches
-/

theorem takes_memberName (name : AsciiWord) {rest : List Char}
    (stops : ∀ c ∈ rest.head?, Text.isWord c = false) (before : List Char) (captures : Captures) :
    memberName.Takes ⟨before, name.text ++ rest⟩ ⟨name.text.reverse ++ before, rest⟩ captures
      captures := by
  have noHash : (char '#').Blocked ⟨before, name.text ++ rest⟩ := by
    refine name.blocked_of_next (by simp) (fun c member => ?_) before rest
    rw [meets_char]
    rintro ⟨_, rfl⟩
    exact name.not_mem (by decide) member
  exact (takes_optional_nothing noHash captures).append (name.takes_word stops before captures)

/-- A line that starts with a declaring keyword and a space. -/
theorem takes_declaringWord {keyword : String} (isKeyword : keyword ∈ ["let", "const", "var"])
    (rest : List Char) :
    (wordEdge ++ capture .keyword (anyText ["let", "const", "var"])).Takes
      ⟨[], keyword.toList ++ ' ' :: rest⟩
      ⟨keyword.toList.reverse ++ [], ' ' :: rest⟩ [] [(.keyword, keyword.toList)] := by
  simp only [List.mem_cons, List.not_mem_nil, or_false] at isKeyword
  rcases isKeyword with rfl | rfl | rfl
  · exact (takes_wordEdge rfl []).append
      ((Takes.firstChoice (takes_literal _ _ _ _)).capture .keyword)
  · have noLet : (text "let").Blocked ⟨[], "const".toList ++ ' ' :: rest⟩ :=
      blocked_of_next (c := 'c') (by simp) (by simp) _ _
    have taken : (anyText ["let", "const", "var"]).Takes ⟨[], "const".toList ++ ' ' :: rest⟩
        ⟨"const".toList.reverse ++ [], ' ' :: rest⟩ [] [] :=
          .secondChoice noLet (.firstChoice (takes_literal _ _ _ _))
    exact (takes_wordEdge rfl []).append (taken.capture .keyword)
  · have noLet : (text "let").Blocked ⟨[], "var".toList ++ ' ' :: rest⟩ :=
      blocked_of_next (c := 'v') (by simp) (by simp) _ _
    have noConst : (text "const").Blocked ⟨[], "var".toList ++ ' ' :: rest⟩ :=
      blocked_of_next (c := 'v') (by simp) (by simp) _ _
    have taken := Takes.secondChoice noLet (Takes.secondChoice noConst (takes_literal _ _ _ []))
    exact (takes_wordEdge rfl []).append (taken.capture .keyword)

theorem plainVariables_finds (name : AsciiWord) {keyword : String}
    (isKeyword : keyword ∈ ["let", "const", "var"]) {finish : String}
    (edge : ∀ c ∈ finish.toList.head?, Text.isWord c = false) :
    plainVariables.pattern.Finds (name.between (keyword ++ " ") finish)
      [(.name, name.text), (.keyword, keyword.toList)] := by
  have line :
      name.between (keyword ++ " ") finish =
        keyword.toList ++ ' ' :: (name.text ++ finish.toList) := by
    simp [AsciiWord.between]
  rw [line]
  exact (((takes_declaringWord isKeyword _).append (name.takes_space _ _ _)).append
    ((name.takes_word edge _ _).capture .name)).finds

theorem classes_finds (name : AsciiWord) :
    classes.pattern.Finds (name.between "class " " \x7b") [(.name, name.text)] := by
  change classes.pattern.Finds ("class".toList ++ ' ' :: (name.text ++ " \x7b".toList)) _
  exact ((((takes_wordEdge rfl []).append (takes_literal _ _ _ _)).append
    (name.takes_space _ _ _)).append
    ((name.takes_word (by decide) _ _).capture .name)).finds

/-- What follows the optional star can only be read from the space before the name. -/
theorem star_blocked (name : AsciiWord) (before rest : List Char) (follow : Pattern) :
    (optional (char '*') ++ (blanks1 ++ follow)).Blocked ⟨before, name.text ++ rest⟩ := by
  refine name.blocked_of_next (by simp) (fun c member => ?_) before rest
  have notStar : '*' ≠ c := fun same => name.not_mem (by decide) (same ▸ member)
  simp [notStar, name.isBlank c member]

theorem function_finds (name : AsciiWord) :
    function.pattern.Finds (name.between "function " "() \x7b") [(.name, name.text)] := by
  change function.pattern.Finds
    ("function".toList ++ ' ' :: (name.text ++ '(' :: ") \x7b".toList)) _
  have afterSpace :
      (optional (char '*') ++ (blanks1 ++ (capture .name word ++ (blanks ++ char '(')))).Takes
      ⟨"function".toList.reverse ++ [], ' ' :: (name.text ++ '(' :: ") \x7b".toList)⟩ _ []
        [(.name, name.text)] :=
    (takes_optional_nothing (blocked_of_next (c := ' ') (by simp) (by simp) _ _) []).append
      ((name.takes_space _ _ _).append (((name.takes_word (by decide) _ _).capture .name).append
        ((takes_blanks_nil (by decide) _ _).append (takes_literal ['('] _ _ _))))
  have gapBlocked :
      ∀ taken left, ' ' :: (name.text ++ '(' :: ") \x7b".toList) = taken ++ left → taken ≠ [] →
      (∀ c ∈ taken, Text.isBlank c = true) →
        (optional (char '*') ++ (blanks1 ++ (capture .name word ++
        (blanks ++ char '(')))).Blocked ⟨taken.reverse ++
          ("function".toList.reverse ++ []), left⟩ := by
    intro taken left split nonempty inside
    obtain ⟨rfl, rfl⟩ := name.blank_run split nonempty inside
    exact star_blocked name _ _ _
  have whole := ((takes_wordEdge rfl []).append (takes_literal "function".toList _ _ _)).append
    (.manyNothing gapBlocked afterSpace)
  exact whole.assoc.assoc.assoc.assoc.assoc.finds

private theorem static_blocked (name : AsciiWord) (different : name.text ≠ "static".toList)
    (before rest : List Char) :
    (text "static" ++ blanks1).Blocked ⟨before, name.text ++ ' ' :: rest⟩ := by
  refine name.blocked_of_ne (by decide) (by simp) (fun c isWord => ?_) (by decide) different
    before rest
  simp [Text.isBlank_eq_false_of_isWord isWord]

theorem field_finds (name : AsciiWord) :
    field.pattern.Finds (name.between "" " = 0;") [(.name, name.text)] := by
  by_cases isStatic : name.text = "static".toList
  · rw [AsciiWord.between, isStatic]
    exact ⟨_, rfl, rfl⟩
  · change field.pattern.Finds (name.text ++ ' ' :: ('=' :: " 0;".toList)) _
    have noModifier := (static_blocked name isStatic [] ('=' :: " 0;".toList)).capture .modifier
    exact (((((takes_lineStart _ _).append (takes_optional_nothing noModifier [])).append
      ((takes_memberName name (by decide) _ _).capture .name)).append
        (takes_blanks_space (by decide) _ _)).append
      (.firstChoice (takes_literal ['='] _ _ _))).finds

theorem method_finds (name : AsciiWord) :
    method.pattern.Finds (name.between "" "() \x7b") [(.name, name.text)] := by
  change method.pattern.Finds (name.text ++ '(' :: (')' :: (' ' :: ['{']))) _
  have blocked : ∀ keyword ∈ ["static", "async", "get", "set"],
      (text keyword ++ blanks1).Blocked ⟨[], name.text ++ '(' :: (')' :: (' ' :: ['{']))⟩ := by
    intro keyword member
    have stuck : ¬(text keyword ++ blanks1).Passes Text.isWord := fun passes =>
      Text.not_exists_blank_word (passes_blanks1.mp (passes_append.mp passes).2)
    refine name.blocked_of_break stuck (by decide) ?_ _ _
    simp only [List.mem_cons, List.not_mem_nil, or_false] at member
    rcases member with rfl | rfl | rfl | rfl
    all_goals simp +decide
  have noStar : (char '*').Blocked ⟨[], name.text ++ '(' :: (')' :: (' ' :: ['{']))⟩ := by
    refine name.blocked_of_next (by simp) (fun c member => ?_) _ _
    rw [meets_char]
    rintro ⟨_, rfl⟩
    exact name.not_mem (by decide) member
  have noAccessor : ((text "get" ++ blanks1) <|> (text "set" ++ blanks1)).Blocked
      ⟨[], name.text ++ '(' :: (')' :: (' ' :: ['{']))⟩ := by
    intro α captures next
    rw [read_orElse, blocked "get" (by simp), blocked "set" (by simp)]
    rfl
  have start := ((((takes_lineStart (name.text ++ '(' :: (')' :: (' ' :: ['{']))) []).append
    (takes_optional_nothing ((blocked "static" (by simp)).capture .modifier) _)).append
    (takes_optional_nothing (blocked "async" (by simp)) _)).append
      (takes_optional_nothing noAccessor _)).append
    (takes_optional_nothing noStar _)
  have named := (start.append ((takes_memberName name (by decide) _ _).capture .name)).append
    (takes_blanks_nil (by decide) _ _)
  exact (((((named.append (takes_literal ['('] _ _ _)).append
    (takes_many_nil (by decide) _ _)).append
    (takes_literal [')'] _ _ _)).append (takes_blanks_space (by decide) _ _)).append
      (takes_literal ['{'] _ _ _)).finds

private theorem thisProperty_findAll (name : AsciiWord) :
    ∃ found, thisProperty.pattern.findAll (name.between "this." " = 0;") = [found] ∧
    found.captures = [(.name, name.text)] := by
  change ∃ found, thisProperty.pattern.findAll
    ("this.".toList ++ (name.text ++ ' ' :: ('=' :: (' ' :: "0;".toList)))) = _ ∧ _
  have assignment :
      assigned.Takes ⟨' ' :: (name.text.reverse ++ ("this.".toList.reverse ++ [])),
        '=' :: (' ' :: "0;".toList)⟩
      ⟨' ' :: '=' :: ' ' :: (name.text.reverse ++ ("this.".toList.reverse ++ [])), "0;".toList⟩
        [(.name, name.text)]
      [(.name, name.text)] :=
    (takes_literal ['='] _ _ _).append (.firstChoice (takes_one (by decide) _ _ _))
  have taken := ((((takes_wordEdge rfl []).append (takes_literal "this.".toList _ _ _)).append
    ((takes_memberName name (by decide) _ _).capture .name)).append
      (takes_blanks_space (by decide) _ _)).append assignment
  exact ⟨_, taken.findAll (by simp) rfl, rfl⟩

/-!
## Steps
-/

theorem step_declaration (keyword : String) (isKeyword : keyword ∈ ["let", "const", "var"])
    (name : AsciiWord) (number : Nat) (context : Context) :
    context.step .javascript ⟨number, name.between (keyword ++ " ") " = 0;"⟩ =
      context.apply .javascript number
        { declarations := [{ name := name.name, kind := declaredKind keyword.toList, scope := context.scopes.current }] } := by
  have fixed :
      ∀ keyword ∈ ["let", "const", "var"],
        (∀ c ∈ ['(', '.', '{', '[', '}'], c ∉ (keyword ++ " ").toList) ∧
      (∀ c ∈ (keyword ++ " ").toList.getLast?, Text.isWord c = false) ∧
        "class".toList ∉ wordsIn (keyword ++ " ").toList ∧
      classes.pattern.find? ((keyword ++ " ").toList ++ "class".toList ++ " = 0;".toList) =
        none := by decide
  obtain ⟨notInStart, edge, noClass, itself⟩ := fixed keyword isKeyword
  have absent : ∀ c ∈ ['(', '.', '{', '[', '}'], c ∉ name.between (keyword ++ " ") " = 0;" := by
    intro c member
    have outside : isAsciiWord c = false ∧ c ∉ " = 0;".toList := by
      revert c
      decide
    exact name.not_mem_between outside.1 (notInStart c member) outside.2
  have noParen := find?_of_no_paren (absent '(' (by decide))
  refine Context.step_of_claims [function, classes, constructors, method, field, destructuring]
    plainVariables [imports] rfl ?_
    (plainVariables_finds name isKeyword (by decide)) ?_ rfl (absent '}' (by decide))
  · refine List.forall_mem_append.mpr ⟨?_, find?_of_no_dot (absent '.' (by decide))⟩
    simp only [List.forall_mem_cons]
    exact ⟨noParen _ (by simp), classes_find?_between name _ _ edge (by decide)
      ⟨noClass, by decide⟩ itself,
      noParen _ (by simp), noParen _ (by simp), field_find?_keyword name isKeyword _,
      destructuring_find? (absent '{' (by decide)) (absent '[' (by decide)), by simp⟩
  · change some ({ declarations :=
      (Declaration.of? context.scopes.current (declaredKind keyword.toList) name.text).toList } :
        Effect) = _
    rw [name.declaration_of?]
    rfl

theorem step_function (name : AsciiWord) (number : Nat) (context : Context) :
    context.step .javascript ⟨number, name.between "function " "() \x7b"⟩ =
      context.apply .javascript number
        { declarations := [{ name := name.name, kind := .function, scope := context.scopes.current }]
          opens := [⟨name.name, .function⟩] } := by
  refine Context.step_of_claims [] function _ rfl ?_ (function_finds name) ?_ rfl
    (name.not_mem_between (by decide) (by decide) (by decide))
  · exact find?_of_no_dot (name.not_mem_between (by decide) (by decide) (by decide))
  · change some ({ declarations :=
      (Declaration.of? context.scopes.current .function name.text).toList
                   opens := Scope.openedIf (opensScope _) name.text .function } : Effect) = _
    rw [name.declaration_of?, name.scope_openedIf (name.opensScope_between (by decide))]
    rfl

theorem step_class (name : AsciiWord) (number : Nat) (context : Context) :
    context.step .javascript ⟨number, name.between "class " " \x7b"⟩ =
      context.apply .javascript number
        { declarations := [{ name := name.name, kind := .classType, scope := context.scopes.current }]
          opens := [⟨name.name, .classType⟩] } := by
  have absent : '(' ∉ name.between "class " " \x7b" :=
    name.not_mem_between (by decide) (by decide) (by decide)
  refine Context.step_of_claims [function] classes _ rfl ?_ (classes_finds name) ?_ rfl
    (name.not_mem_between (by decide) (by decide) (by decide))
  · refine List.forall_mem_append.mpr
      ⟨List.forall_mem_singleton.mpr (find?_of_no_paren absent _ (by simp)), ?_⟩
    exact find?_of_no_dot (name.not_mem_between (by decide) (by decide) (by decide))
  · change some ({ declarations :=
      (Declaration.of? context.scopes.current .classType name.text).toList
                   opens := Scope.openedIf (opensScope _) name.text .classType } : Effect) = _
    rw [name.declaration_of?, name.scope_openedIf (name.opensScope_between (by decide))]
    rfl

theorem step_field (name : AsciiWord) (number : Nat) {context : Context}
    (inside : inClassBody context = true) :
    context.step .javascript ⟨number, name.between "" " = 0;"⟩ =
      context.apply .javascript number
        { declarations := [{ name := name.name, kind := .property, scope := context.scopes.owner }] } := by
  have absent : '(' ∉ name.between "" " = 0;" :=
    name.not_mem_between (by decide) (by decide) (by decide)
  have noParen := find?_of_no_paren absent
  refine Context.step_of_claims [function, classes, constructors, method] field _ rfl ?_
    (field_finds name) ?_ rfl
    (name.not_mem_between (by decide) (by decide) (by decide))
  · refine List.forall_mem_append.mpr
      ⟨?_, find?_of_no_dot (name.not_mem_between (by decide) (by decide) (by decide))⟩
    simp only [List.forall_mem_cons]
    exact ⟨noParen _ (by simp), classes_find?_between name _ _ (by decide) (by decide) (by decide)
      (by decide),
      noParen _ (by simp), noParen _ (by simp), by simp⟩
  · change (if !inClassBody context then none else
      some (Effect.ofDeclarations (Declaration.of? context.scopes.owner .property
        name.text).toList)) = _
    rw [name.declaration_of?, inside]
    rfl

theorem step_constructor (number : Nat) {context : Context}
    (inside : context.scopes.isRoot = false) :
    context.step .javascript ⟨number, "constructor() \x7b".toList⟩ =
      context.apply .javascript number
        { declarations := [{ name := "constructor", kind := .constructor, scope := context.scopes.owner }]
          opens := [⟨"constructor", .function⟩] } := by
  refine Context.step_of_claims [function, classes] constructors _ rfl ?_ ⟨_, rfl, rfl⟩ ?_ rfl
    (by decide)
  · refine List.forall_mem_append.mpr ⟨?_, find?_of_no_dot (by decide)⟩
    simp only [List.forall_mem_cons]
    exact ⟨by decide, by decide, by simp⟩
  · simp only [constructors, inside]
    rfl

theorem step_method (name : AsciiWord) (notConstructor : name.text ≠ "constructor".toList)
    (notKeyword : isAmong keywords name.text = false) (number : Nat) {context : Context}
    (inside : inClassBody context = true) :
    context.step .javascript ⟨number, name.between "" "() \x7b"⟩ =
      context.apply .javascript number
        { declarations := [{ name := name.name, kind := .method, scope := context.scopes.owner }]
          opens := [⟨name.name, .function⟩] } := by
  have noConstructor : constructors.pattern.find? (name.between "" "() \x7b") = none := by
    have anchored : constructors.pattern.Anchored := trivial
    refine anchored.find?_eq_none ?_
    have unmet : ∀ c, Text.isWord c = true → ¬(blanks ++ char '(').Meets (fun _ => false) c := by
      intro c isWord
      have notParen : '(' ≠ c := by
        rintro rfl
        exact absurd isWord (by decide)
      simp [Text.isBlank_eq_false_of_isWord isWord, notParen]
    exact name.blocked_of_ne (c := '(') (by decide) (by simp) unmet (by decide) notConstructor []
      ") \x7b".toList
  have noFunction :=
    name.find?_between_of_ledBy function_ledBy (by decide) "" "() \x7b" (by decide) (by decide)
      (by decide)
    (by decide)
  refine Context.step_of_claims [function, classes, constructors] method _ rfl ?_
    (method_finds name) ?_ rfl
    (name.not_mem_between (by decide) (by decide) (by decide))
  · refine List.forall_mem_append.mpr
      ⟨?_, find?_of_no_dot (name.not_mem_between (by decide) (by decide) (by decide))⟩
    simp only [List.forall_mem_cons]
    exact ⟨noFunction, classes_find?_between name _ _ (by decide) (by decide) (by decide) (by decide), noConstructor, by simp⟩
  · change (if !inClassBody context || isAmong keywords name.text then none else
      some ({ declarations := (Declaration.of? context.scopes.owner .method name.text none none).toList
              opens := Scope.openedIf (opensBlock _) name.text .function } : Effect)) = _
    rw [name.declaration_of?, name.scope_openedIf (name.opensBlock_between (by decide)), inside,
      notKeyword]
    rfl

private theorem prototypeMethod_find? {line : List Char} (oneDot : line.count '.' = 1) :
    prototypeMethod.pattern.find? line = none := by
  cases matched : prototypeMethod.pattern.find? line with
  | none => rfl
  | some found =>
    obtain ⟨before, text, rest, kept, rfl, reads, _⟩ := isMatch_of_find? matched
    obtain ⟨_, _, _, rfl, ⟨_, _, _, rfl, ⟨_, _, _, rfl, ⟨_, _, _, rfl, _, ⟨rfl, _⟩⟩, _⟩, _⟩, _⟩ :=
      reads
    have twice : ".prototype.".toList.count '.' = 2 := by decide
    simp only [List.count_append, twice] at oneDot
    omega

private theorem cascade_find?_this (name : AsciiWord) :
    ∀ rule ∈ table.cascade, rule.pattern.find? (name.between "this." " = 0;") = none := by
  have absent : ∀ c ∈ ['(', '{', '['], c ∉ name.between "this." " = 0;" := by
    simp only [List.forall_mem_cons]
    exact ⟨name.not_mem_between (by decide) (by decide) (by decide),
      name.not_mem_between (by decide) (by decide) (by decide),
      name.not_mem_between (by decide) (by decide) (by decide), by simp⟩
  have noParen := find?_of_no_paren (absent '(' (by decide))
  have noField : field.pattern.find? (name.between "this." " = 0;") = none := by
    have anchored : field.pattern.Anchored := trivial
    have stuck : ¬field.pattern.Passes Text.isWord := by
      simp only [field]
      simp +decide
    have unmet : ¬field.pattern.Meets Text.isWord '.' := by
      simp only [field, memberName]
      simp +decide
    exact anchored.find?_eq_none (blocked_of_not_meets stuck rfl unmet)
  have noImport : imports.pattern.find? (name.between "this." " = 0;") = none := by
    have anchored : imports.pattern.Anchored := trivial
    refine anchored.find?_eq_none (blocked_of_next (c := 't') ?_ ?_ [] _)
    · simp only [imports]
      simp [Text.isBlank]
    · simp only [imports]
      simp [Text.isBlank]
  simp only [table, List.forall_mem_cons]
  exact ⟨noParen _ (by simp), classes_find?_between name _ _ (by decide) (by decide) (by decide)
    (by decide),
    noParen _ (by simp), noParen _ (by simp), noField,
    destructuring_find? (absent '{' (by decide)) (absent '[' (by decide)),
    name.find?_between_of_ledBy plainVariables_ledBy (by decide) _ _ (by decide) (by decide)
      (by decide) (by decide),
    noImport, by simp⟩

theorem step_this (name : AsciiWord) (number : Nat) (context : Context) :
    context.step .javascript ⟨number, name.between "this." " = 0;"⟩ =
      if context.scopes.isRoot then context
      else context.apply .javascript number
        { declarations := [{ name := name.name, kind := .property, scope := context.scopes.owner }] } := by
  obtain ⟨found, all, kept⟩ := thisProperty_findAll name
  have others : ∀ rule ∈ [staticProperty, prototypeMethod, builtinCall],
      rule.pattern.find? (name.between "this." " = 0;") = none := by
    have noStatic : staticProperty.pattern.find? (name.between "this." " = 0;") = none := by
      have anchored : staticProperty.pattern.Anchored := trivial
      refine anchored.find?_eq_none (blocked_of_next (c := 't') ?_ ?_ [] _)
      · simp only [staticProperty]
        simp
      · simp only [staticProperty]
        simp [Text.isBlank]
    have absent : '(' ∉ name.between "this." " = 0;" :=
      name.not_mem_between (by decide) (by decide) (by decide)
    have oneDot : (name.between "this." " = 0;").count '.' = 1 := name.count_between (by decide) _ _
    simp only [List.forall_mem_cons]
    exact ⟨noStatic, prototypeMethod_find? oneDot, find?_of_no_paren absent _ (by simp), by simp⟩
  have tried :
      (thisProperty.tryMatch .javascript number (name.between "this." " = 0;") context found).1 =
      if context.scopes.isRoot then context
      else context.apply .javascript number
        { declarations := [{ name := name.name, kind := .property, scope := context.scopes.owner }] } := by
    have outcome : thisProperty.effect? found.captures (name.between "this." " = 0;") context =
        if context.scopes.isRoot then none
        else some
          { declarations := [{ name := name.name, kind := .property, scope := context.scopes.owner }] } := by
      rw [kept]
      change (if context.scopes.isRoot then none else
        some (Effect.ofDeclarations (Declaration.of? context.scopes.owner .property
          name.text).toList)) = _
      rw [name.declaration_of?]
      rfl
    rw [Rule.tryMatch, outcome]
    cases context.scopes.isRoot with
    | true => rfl
    | false => rfl
  have read : context.read table .javascript number (name.between "this." " = 0;") =
      (thisProperty.tryMatch .javascript number (name.between "this." " = 0;") context
        found).1 := by
    rw [Context.read, Context.cascaded_of_find?_eq_none (cascade_find?_this name)]
    have checks : table.checks = thisProperty :: [staticProperty, prototypeMethod, builtinCall] :=
      rfl
    rw [checks, List.foldl_cons, Context.foldl_checked_of_find?_eq_none others, all]
    rfl
  have notClosing : name.between "this." " = 0;" ≠ ['}'] := fun same =>
    name.not_mem_between (c := '}') (by decide) (by decide) (by decide)
      (same ▸ List.mem_singleton_self _)
  rw [Context.step]
  simp only [if_neg notClosing]
  exact read.trans tried

end Rules.JavaScript

end Symtab
