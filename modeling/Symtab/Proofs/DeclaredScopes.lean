import Symtab.Proofs.Provenance

/-!
# Scopes that are declared

In JavaScript, Python, Java, C and Go a body is only opened together with the declaration of its
name. Hence every scope that a scan reports is itself reported, no later than what it is the scope
of, unless it is an owner that is written out in front of a name. C++, C# and Rust open bodies that
they do not declare.
-/

set_option autoImplicit false

namespace Symtab

/-- The kinds of declarations that have a body. -/
def bodyKinds : List Kind :=
  [.function, .classType, .method, .constructor]

/-- The scope of the symbol is an owner that the line writes in front of the name. -/
inductive OwnerWritten (line : List Char) (symbol : Symbol) : Prop where
  | staticProperty (language : symbol.language = .javascript)
      (described : symbol.description = some "Static property")
      (written : symbol.scope.toList ++ '.' :: symbol.name.toList <+: line)
  | prototypeMethod (language : symbol.language = .javascript)
      (described : symbol.description = some "Prototype method")
      (written : symbol.scope.toList ++ (".prototype.".toList ++ symbol.name.toList) <+: line)
  | receiver (gap start finish space : List Char) (language : symbol.language = .go)
      (kind : symbol.kind = .method)
      (spaced : gap ≠ []) (blank : ∀ c ∈ gap ++ space, Text.isBlank c = true)
      (startEdge : ∀ c ∈ start.getLast?, Text.isWord c = false)
        (finishEdge : ∀ c ∈ finish.head?, Text.isWord c = false)
      (written : "func".toList ++ (gap ++
        '(' :: (start ++ symbol.scope.toList ++ finish ++ ')' :: (space ++ symbol.name.toList)))
        <+: line)

/-!
## Effects
-/

/-- The scope of a declaration is there before the line is read, or is written on it. -/
def Declaration.Housed (language : Language) (line : List Char) (stack : ScopeStack)
    (declaration : Declaration) : Prop :=
  ScopeAtHand stack declaration.scope ∨
    ∀ number, OwnerWritten line (declaration.toSymbol language number)

/-- Every body that is opened is declared, and every declaration has a scope to be in. -/
structure Effect.Introduced (language : Language) (line : List Char) (stack : ScopeStack)
    (effect : Effect) : Prop where
  opens : ∀ scope ∈ effect.opens, ∃ declaration ∈ effect.declarations,
    declaration.kind ∈ bodyKinds ∧ declaration.name = scope.name
  housed : ∀ declaration ∈ effect.declarations, declaration.Housed language line stack

section Introduced

variable {language : Language} {line : List Char} {stack : ScopeStack} {scope : String}

theorem Declaration.housed_of? (atHand : ScopeAtHand stack scope) (kind : Kind) (raw : List Char)
    (dataType : Option (List Char)) (description : Option String) :
    ∀ declaration ∈ (Declaration.of? scope kind raw dataType description).toList,
      declaration.Housed language line stack :=
  forall_mem_of? fun _ _ => .inl atHand

theorem Declaration.housed_filterMap (atHand : ScopeAtHand stack scope) (kind : Kind)
    (names : List (List Char)) (dataType : Option (List Char)) (description : Option String) :
    ∀ declaration ∈ names.filterMap fun raw => Declaration.of? scope kind raw dataType description,
      declaration.Housed language line stack :=
  forall_mem_filterMap fun _ _ _ _ => .inl atHand

namespace Effect

private theorem introduced_nothing : nothing.Introduced language line stack where
  opens := by simp [nothing]
  housed := by simp [nothing]

private theorem introduced_ofDeclarations {declarations : List Declaration}
    (housed : ∀ declaration ∈ declarations, declaration.Housed language line stack) :
    (ofDeclarations declarations).Introduced language line stack where
  opens := by simp [ofDeclarations]
  housed := housed

private theorem introduced_declaring {declarations : List Declaration}
    (housed : ∀ declaration ∈ declarations, declaration.Housed language line stack) :
    Introduced language line stack { declarations } where
  opens := by simp
  housed := housed

/-- The body that a line leaves open has the name that the line declares. -/
theorem introduced_opening {kind : Kind} (hasBody : kind ∈ bodyKinds) {raw : List Char}
    {dataType : Option (List Char)}
    {description : Option String}
    (housed : ∀ declaration ∈ (Declaration.of? scope kind raw dataType description).toList,
      declaration.Housed language line stack) (leftOpen : Bool) (scopeKind : ScopeKind) :
    Introduced language line stack
      { declarations := (Declaration.of? scope kind raw dataType description).toList
        opens := Scope.openedIf leftOpen raw scopeKind } where
  opens := by
    intro opened member
    cases leftOpen with
    | false => cases member
    | true =>
      obtain ⟨name, cleaned, rfl⟩ := Option.map_eq_some_iff.mp (Option.mem_toList.mp member)
      exact ⟨_, Option.mem_toList.mpr (Option.map_eq_some_iff.mpr ⟨name, cleaned, rfl⟩),
        hasBody, rfl⟩
  housed := housed

private theorem introduced_body (atHand : ScopeAtHand stack scope) {kind : Kind}
    (hasBody : kind ∈ bodyKinds) (raw : List Char) (dataType : Option (List Char))
    (description : Option String) (leftOpen : Bool) (scopeKind : ScopeKind) :
    Introduced language line stack
      { declarations := (Declaration.of? scope kind raw dataType description).toList
        opens := Scope.openedIf leftOpen raw scopeKind } :=
  introduced_opening hasBody (Declaration.housed_of? atHand kind raw dataType description)
    leftOpen scopeKind

end Effect

end Introduced

private theorem function_mem_bodyKinds : Kind.function ∈ bodyKinds := by decide

private theorem classType_mem_bodyKinds : Kind.classType ∈ bodyKinds := by decide

private theorem method_mem_bodyKinds : Kind.method ∈ bodyKinds := by decide

private theorem constructor_mem_bodyKinds : Kind.constructor ∈ bodyKinds := by decide

/-!
## Rules
-/

/-- Whatever bodies the rule opens it declares, in scopes that there are. -/
def Rule.Introduces (language : Language) (rule : Rule) : Prop :=
  ∀ line context found, rule.pattern.IsMatch line found →
    Yields (Effect.Introduced language line context.scopes)
      (rule.effect? found.captures line context)

namespace Rules

open Effect Declaration

theorem C.introduces : ∀ rule ∈ C.table.cascade, rule.Introduces .c := by
  simp only [C.table, List.forall_mem_cons]
  refine ⟨?macroDefinition, ?function, ?typeDefinition, ?typeDefinitionEnd, ?structures,
    ?plainVariables, by simp⟩
  all_goals intro line context found _
  case function =>
    exact .bind fun _ => .bind fun _ =>
      .ite .none (.some (introduced_body (.current _) function_mem_bodyKinds _ _ _ _ _))
  case macroDefinition | typeDefinition | typeDefinitionEnd | structures =>
    exact .bind fun _ => .some (introduced_ofDeclarations (housed_of? (.current _) _ _ _ _))
  case plainVariables =>
    exact .bind fun _ => .bind fun _ =>
      .ite .none (.some (introduced_ofDeclarations (housed_of? (.current _) _ _ _ _)))

theorem Java.introduces : ∀ rule ∈ Java.table.cascade, rule.Introduces .java := by
  simp only [Java.table, List.forall_mem_cons]
  refine ⟨?package, ?imports, ?classes, ?method, ?bareConstructor, ?plainVariables, by simp⟩
  all_goals intro line context found _
  case package => exact .some introduced_nothing
  case imports =>
    exact .bind fun _ => .ite (.some introduced_nothing)
      (.some (introduced_declaring (housed_of? (.current _) _ _ _ _)))
  case classes =>
    exact .bind fun _ => .some (introduced_body (.current _) classType_mem_bodyKinds _ _ _ _ _)
  case method =>
    refine .bind fun dataType => .bind fun name => .ite .none ?_
    dsimp only
    -- A constructor or a method, and either has a body.
    split
    · exact .some (introduced_body (.current _) constructor_mem_bodyKinds _ _ _ _ _)
    · exact .some (introduced_body (.current _) method_mem_bodyKinds _ _ _ _ _)
  case bareConstructor =>
    exact .bind fun _ => .ite .none
      (.some (introduced_body (.current _) constructor_mem_bodyKinds _ _ _ _ _))
  case plainVariables =>
    exact .bind fun _ => .bind fun _ =>
      .ite .none (.some (introduced_declaring (housed_of? (.current _) _ _ _ _)))

theorem Python.introduces :
    ∀ rule ∈ Python.table.cascade ++ Python.table.checks, rule.Introduces .python := by
  simp only [Python.table, List.cons_append, List.nil_append, List.forall_mem_cons]
  refine ⟨?function, ?classes, ?selfProperty, ?typedVariable, ?plainVariables, ?imports,
    ?builtinCall, by simp⟩
  all_goals intro line context found _
  case function =>
    have hasBody :
        (if context.scopes.currentKind = .classType then Kind.method else .function) ∈
          bodyKinds := by
      split
      · exact method_mem_bodyKinds
      · exact function_mem_bodyKinds
    exact .bind fun _ => .some (introduced_body (.current _) hasBody _ _ _ true _)
  case classes =>
    exact .bind fun _ => .some (introduced_body (.current _) classType_mem_bodyKinds _ _ _ true _)
  case selfProperty =>
    exact .bind fun _ => .ite .none
      (.some (introduced_ofDeclarations (housed_of? (.owner _) _ _ _ _)))
  case typedVariable =>
    exact .bind fun _ => .bind fun _ =>
      .ite .none (.some (introduced_declaring (housed_of? (.current _) _ _ _ _)))
  case plainVariables =>
    exact .bind fun _ => .ite .none
      (.some (introduced_declaring (housed_filterMap (.current _) _ _ _ _)))
  case imports => exact .some (introduced_ofDeclarations (housed_filterMap .global _ _ _ _))
  case builtinCall =>
    exact .bind fun _ => .ite .none
      (.some (introduced_ofDeclarations (housed_of? .builtins _ _ _ _)))

/-!
### Owners in front of a name
-/

/-- A word that is kept under a slot is declared as it is written. -/
theorem of_reads_capture_word {slot : Slot} {before text rest : List Char}
    {captures kept : Captures}
    (reads : (Pattern.capture slot Pattern.word).Reads before text rest captures kept) :
    kept = (slot, text) :: captures ∧ cleanName? text = some (String.ofList text) := by
  obtain ⟨_, readWord, rfl⟩ := reads
  obtain ⟨nonempty, isWord, rfl⟩ := readWord.of_many1
  exact ⟨rfl, cleanName?_word nonempty isWord⟩

theorem JavaScript.staticProperty_introduces :
    JavaScript.staticProperty.Introduces .javascript := by
  intro line context found isMatch
  refine .bindKept fun owner keptOwner => .bindKept fun name keptName => .ite .none
    (.some (introduced_ofDeclarations (forall_mem_of? fun _ cleaned => .inr fun number => ?_)))
  obtain ⟨before, text, rest, kept, rfl, reads, rfl⟩ := isMatch
  obtain ⟨_, sign, _, rfl, ⟨_, gap, _, rfl,
    ⟨_, member, _, rfl, ⟨_, dot, _, rfl, ⟨start, object, _, rfl, startReads, ownerReads⟩, dotReads⟩,
      nameReads⟩, gapReads⟩, signReads⟩ := reads
  obtain ⟨⟨rfl, rfl⟩, rfl⟩ := startReads
  obtain ⟨_, ⟨_, _, _, _, ⟨_, rfl⟩, ⟨_, rfl⟩⟩, rfl⟩ := ownerReads
  obtain ⟨rfl, rfl⟩ := dotReads
  obtain ⟨rfl, clean⟩ := of_reads_capture_word nameReads
  obtain ⟨_, rfl⟩ := gapReads
  obtain ⟨_, _, _, _, ⟨_, rfl⟩, ⟨_, rfl⟩ | ⟨_, rfl⟩⟩ := signReads
  all_goals
    cases keptOwner
    cases keptName
    cases cleaned.symm.trans clean
    refine .staticProperty rfl rfl ⟨gap ++ sign ++ rest, ?_⟩
    simp [Declaration.toSymbol]

theorem JavaScript.prototypeMethod_introduces :
    JavaScript.prototypeMethod.Introduces .javascript := by
  intro line context found isMatch
  refine .bindKept fun owner keptOwner => .bindKept fun name keptName =>
    .some (introduced_ofDeclarations (forall_mem_of? fun _ cleaned => .inr fun number => ?_))
  obtain ⟨before, text, rest, kept, rfl, reads, rfl⟩ := isMatch
  obtain ⟨_, sign, _, rfl, ⟨_, gap, _, rfl,
    ⟨_, member, _, rfl, ⟨_, dotted, _, rfl, ⟨start, object, _, rfl, startReads, ownerReads⟩,
      dottedReads⟩, nameReads⟩, gapReads⟩, signReads⟩ := reads
  obtain ⟨⟨rfl, rfl⟩, rfl⟩ := startReads
  obtain ⟨rfl, _⟩ := of_reads_capture_word ownerReads
  obtain ⟨rfl, rfl⟩ := dottedReads
  obtain ⟨rfl, clean⟩ := of_reads_capture_word nameReads
  obtain ⟨_, rfl⟩ := gapReads
  obtain ⟨_, rfl⟩ := signReads
  cases keptOwner
  cases keptName
  cases cleaned.symm.trans clean
  refine .prototypeMethod rfl rfl ⟨gap ++ sign ++ rest, ?_⟩
  simp [Declaration.toSymbol]

theorem Go.of_reads_bracketed {before text rest : List Char} {captures kept : Captures}
    (reads : Go.bracketed.Reads before text rest captures kept) :
    (∀ c ∈ text.head?, Text.isWord c = false) ∧ kept = captures := by
  rcases reads with ⟨_, _, _, rfl, ⟨_, _, _, rfl, ⟨rfl, rfl⟩, ⟨_, rfl⟩⟩, ⟨_, rfl⟩⟩ | ⟨rfl, rfl⟩
  · exact ⟨by simp; decide, rfl⟩
  · exact ⟨by simp, rfl⟩

private theorem forall_mem_getLast?_append {property : Char → Prop} {start finish : List Char}
    (inStart : ∀ c ∈ start.getLast?, property c) (inFinish : ∀ c ∈ finish.getLast?, property c) :
    ∀ c ∈ (start ++ finish).getLast?, property c := by
  intro c last
  rw [List.getLast?_append] at last
  rcases Option.or_eq_some_iff.mp last with later | ⟨_, earlier⟩
  · exact inFinish c later
  · exact inStart c earlier

private theorem isWord_last_of_blanks {gap : List Char}
    (inside : ∀ c ∈ gap, Text.isBlank c = true) :
    ∀ c ∈ gap.getLast?, Text.isWord c = false :=
  fun c last => Text.isWord_eq_false_of_isBlank (inside c (List.mem_of_getLast? last))

theorem Go.of_reads_receiverVariable {before text rest : List Char} {captures kept : Captures}
    (reads : (Pattern.optional (Pattern.word ++ Pattern.blanks1)).Reads before text rest
      captures kept) :
    (∀ c ∈ text.getLast?, Text.isWord c = false) ∧ kept = captures := by
  rcases reads with ⟨word, gap, _, rfl, wordReads, gapReads⟩ | ⟨rfl, rfl⟩
  · obtain ⟨_, _, rfl⟩ := wordReads.of_many1
    obtain ⟨spaced, blank, rfl⟩ := gapReads.of_many1
    refine ⟨fun c last => ?_, rfl⟩
    rw [List.getLast?_append] at last
    rcases Option.or_eq_some_iff.mp last with inGap | ⟨noGap, _⟩
    · exact isWord_last_of_blanks blank c inGap
    · exact absurd (List.getLast?_eq_none_iff.mp noGap) spaced
  · exact ⟨by simp, rfl⟩

/-- The parentheses of a receiver hold the name of its type as a whole word. -/
theorem Go.of_reads_receiver {before text rest : List Char} {captures kept : Captures}
    (reads : (Pattern.char '(' ++ Pattern.blanks ++
      Pattern.optional (Pattern.word ++ Pattern.blanks1) ++
      Pattern.optional (Pattern.char '*') ++ Pattern.capture .owner Pattern.word ++ Go.bracketed ++
        Pattern.blanks ++
      Pattern.char ')' ++ Pattern.blanks).Reads before text rest captures kept) :
    ∃ start owner finish space, text = '(' :: (start ++ owner ++ finish ++ ')' :: space) ∧
    kept = (.owner, owner) :: captures ∧
      (∀ c ∈ start.getLast?, Text.isWord c = false) ∧ (∀ c ∈ finish.head?, Text.isWord c = false) ∧
      ∀ c ∈ space, Text.isBlank c = true := by
  obtain ⟨_, space, _, rfl, ⟨_, paren, _, rfl,
    ⟨_, gap, _, rfl, ⟨_, index, _, rfl,
      ⟨_, owner, _, rfl, ⟨_, star, _, rfl,
        ⟨_, named, _, rfl, ⟨_, lead, _, rfl, ⟨rfl, rfl⟩, ⟨leadBlank, rfl⟩⟩, namedReads⟩, starReads⟩,
        ownerReads⟩, indexReads⟩, ⟨gapBlank, rfl⟩⟩, ⟨rfl, rfl⟩⟩, ⟨spaceBlank, rfl⟩⟩ := reads
  obtain ⟨namedEdge, rfl⟩ := Go.of_reads_receiverVariable namedReads
  obtain ⟨starEdge, rfl⟩ : (∀ c ∈ star.getLast?, Text.isWord c = false) ∧ _ := by
    rcases starReads with ⟨rfl, same⟩ | ⟨rfl, same⟩
    · exact ⟨by simp; decide, same⟩
    · exact ⟨by simp, same⟩
  obtain ⟨rfl, _⟩ := of_reads_capture_word ownerReads
  obtain ⟨indexEdge, rfl⟩ := Go.of_reads_bracketed indexReads
  refine ⟨lead ++ named ++ star, owner, index ++ gap, space, by simp, rfl, ?_, ?_, spaceBlank⟩
  · exact forall_mem_getLast?_append
      (forall_mem_getLast?_append (isWord_last_of_blanks leadBlank) namedEdge) starEdge
  · intro c first
    rw [List.head?_append] at first
    rcases Option.or_eq_some_iff.mp first with inIndex | ⟨_, inGap⟩
    · exact indexEdge c inIndex
    · exact Text.isWord_eq_false_of_isBlank (gapBlank c (List.mem_of_head? inGap))

theorem Go.receiver_written {line : List Char} {found : Pattern.Match}
    (isMatch : Go.function.pattern.IsMatch line found) {receiver name : List Char}
    (keptOwner : found.captures.text? .owner = some receiver)
    (keptName : found.captures.text? .name = some name) {clean : String}
    (cleaned : cleanName? name = some clean) (number : Nat) (dataType : Option String)
    (description : Option String) :
    OwnerWritten line
      { name := clean, kind := .method, scope := String.ofList receiver, line := number, dataType,
        language := .go,
        description } := by
  obtain ⟨before, text, rest, kept, rfl, reads, rfl⟩ := isMatch
  obtain ⟨_, paren, _, rfl, ⟨_, second, _, rfl,
    ⟨_, parameters, _, rfl, ⟨_, first, _, rfl,
      ⟨_, named, _, rfl, ⟨_, inParens, _, rfl,
        ⟨_, gap, _, rfl, ⟨start, keyword, _, rfl, startReads, keywordReads⟩, gapReads⟩,
        receiverReads⟩, nameReads⟩, firstReads⟩, parametersRead⟩, secondReads⟩, parenReads⟩ := reads
  obtain ⟨⟨rfl, rfl⟩, rfl⟩ := startReads
  obtain ⟨rfl, rfl⟩ := keywordReads
  obtain ⟨spaced, gapBlank, rfl⟩ := gapReads.of_many1
  obtain ⟨rfl, clean⟩ := of_reads_capture_word nameReads
  obtain ⟨_, rfl⟩ := firstReads
  obtain ⟨_, rfl⟩ := Go.of_reads_bracketed parametersRead
  obtain ⟨_, rfl⟩ := secondReads
  obtain ⟨_, rfl⟩ := parenReads
  rcases receiverReads with receiverReads | ⟨rfl, rfl⟩
  · obtain ⟨start, owner, finish, space, rfl, rfl, startEdge, finishEdge, spaceBlank⟩ :=
      Go.of_reads_receiver receiverReads
    cases keptOwner
    cases keptName
    cases cleaned.symm.trans clean
    have blanks := List.forall_mem_append.mpr ⟨gapBlank, spaceBlank⟩
    exact .receiver gap start finish space rfl rfl spaced blanks startEdge finishEdge
      ⟨first ++ parameters ++ second ++ paren ++ rest, by simp⟩
  · cases keptOwner

theorem Go.function_introduces : Go.function.Introduces .go := by
  intro line context found isMatch
  refine .bindKept fun name keptName => .some ?_
  split
  · next receiver keptOwner =>
    refine introduced_opening method_mem_bodyKinds
      (forall_mem_of? fun _ cleaned => .inr fun number => ?_) _ _
    exact Go.receiver_written isMatch keptOwner keptName cleaned number _ _
  · exact introduced_body (.current _) function_mem_bodyKinds _ _ _ _ _

theorem Go.introduces : ∀ rule ∈ Go.table.cascade, rule.Introduces .go := by
  simp only [Go.table, List.forall_mem_cons]
  refine ⟨?groupEnd, ?groupImport, ?groupSpec, ?package, ?groupStart, ?imports,
    Go.function_introduces, ?types, ?constants,
    ?plainVariables, ?shortVariables, ?interfaceMethod, ?field, by simp⟩
  all_goals intro line context found _
  case groupEnd => exact .ite .none (.some ⟨by simp, by simp⟩)
  case groupImport =>
    exact .ite .none (.bind fun _ => .some (introduced_declaring (housed_of? .global _ _ _ _)))
  case groupSpec =>
    exact .bind fun _ => .bind fun _ =>
      .some (introduced_declaring (housed_filterMap (.current _) _ _ _ _))
  case package => exact .some introduced_nothing
  case groupStart => exact .bind fun _ => .bind fun _ => .some ⟨by simp, by simp⟩
  case imports => exact .bind fun _ => .some (introduced_declaring (housed_of? .global _ _ _ _))
  case types =>
    exact .bind fun _ => .bind fun _ =>
      .some (introduced_body (.current _) classType_mem_bodyKinds _ _ _ _ _)
  case constants =>
    exact .bind fun _ => .some (introduced_ofDeclarations (housed_of? (.current _) _ _ _ _))
  case plainVariables =>
    exact .bind fun _ => .some (introduced_declaring (housed_filterMap (.current _) _ _ _ _))
  case shortVariables =>
    exact .bind fun _ => .ite .none
      (.some (introduced_declaring (housed_filterMap (.current _) _ _ _ _)))
  case interfaceMethod =>
    exact .bind fun _ => .ite .none
      (.some (introduced_ofDeclarations (housed_of? (.owner _) _ _ _ _)))
  case field =>
    exact .bind fun _ => .bind fun _ => .ite .none
      (.some (introduced_declaring (housed_filterMap (.owner _) _ _ _ _)))

theorem JavaScript.introduces :
    ∀ rule ∈ JavaScript.table.cascade ++ JavaScript.table.checks, rule.Introduces .javascript := by
  simp only [JavaScript.table, List.cons_append, List.nil_append, List.forall_mem_cons]
  refine ⟨?function, ?classes, ?constructors, ?method, ?field, ?destructuring, ?plainVariables,
    ?imports, ?thisProperty,
    JavaScript.staticProperty_introduces, JavaScript.prototypeMethod_introduces,
      ?builtinCall, by simp⟩
  all_goals intro line context found _
  case function =>
    exact .bind fun _ => .some (introduced_body (.current _) function_mem_bodyKinds _ _ _ _ _)
  case classes =>
    exact .bind fun _ => .some (introduced_body (.current _) classType_mem_bodyKinds _ _ _ _ _)
  case constructors =>
    exact .ite .none (.some (introduced_body (.owner _) constructor_mem_bodyKinds _ _ _ _ _))
  case method =>
    exact .bind fun _ => .ite .none
      (.some (introduced_body (.owner _) method_mem_bodyKinds _ _ _ _ _))
  case field | thisProperty =>
    exact .bind fun _ => .ite .none
      (.some (introduced_ofDeclarations (housed_of? (.owner _) _ _ _ _)))
  case destructuring =>
    exact .bind fun _ => .bind fun _ =>
      .some (introduced_ofDeclarations (housed_filterMap (.current _) _ _ _ _))
  case plainVariables =>
    exact .bind fun _ => .bind fun _ =>
      .some (introduced_declaring (housed_of? (.current _) _ _ _ _))
  case imports => exact .some (introduced_ofDeclarations (housed_filterMap (.current _) _ _ _ _))
  case builtinCall =>
    exact .bind fun _ => .bind fun _ => .bind fun _ => .ite .none
      (.some (introduced_ofDeclarations (housed_of? .builtins _ _ _ _)))

end Rules

/-- The languages in which a body is only opened where its name is declared. -/
def Language.bodyDeclaring : List Language :=
  [.javascript, .python, .java, .c, .go]

theorem Language.introduces {language : Language} (member : language ∈ bodyDeclaring) :
    ∀ rule ∈ language.rules.cascade ++ language.rules.checks, rule.Introduces language := by
  simp only [bodyDeclaring, List.mem_cons, List.not_mem_nil, or_false] at member
  rcases member with rfl | rfl | rfl | rfl | rfl
  · exact Rules.JavaScript.introduces
  · exact Rules.Python.introduces
  · exact Rules.Java.introduces
  · exact Rules.C.introduces
  · exact Rules.Go.introduces

/-!
## Scans
-/

/-- A body of the name is among what is declared up to the line of the number. -/
def BodyDeclared (symbols : List Symbol) (number : Nat) (name : String) : Prop :=
  ∃ owner ∈ symbols, owner.kind ∈ bodyKinds ∧ owner.name = name ∧ owner.line ≤ number

theorem BodyDeclared.mono {symbols more : List Symbol} (part : symbols ⊆ more) {number later : Nat}
    (upTo : number ≤ later) {name : String} (declared : BodyDeclared symbols number name) :
    BodyDeclared more later name := by
  obtain ⟨owner, member, hasBody, named, above⟩ := declared
  exact ⟨owner, part member, hasBody, named, Nat.le_trans above upTo⟩

/-- Where the scope of a symbol is to be found: it is a fixed one, a declared body, or written on
the line of the symbol. -/
inductive Symbol.Placed (lines : List Line) (symbols : List Symbol) (symbol : Symbol) : Prop where
  | global (scope : symbol.scope = globalScope)
  | builtins (scope : symbol.scope = builtinScope)
  | declared (body : BodyDeclared symbols symbol.line symbol.scope)
  | written {line : Line} (read : line ∈ lines) (number : line.number = symbol.line)
      (owner : OwnerWritten line.text symbol)

theorem Symbol.Placed.mono {lines moreLines : List Line} (partLines : lines ⊆ moreLines)
    {symbols more : List Symbol} (part : symbols ⊆ more) {symbol : Symbol}
    (placed : symbol.Placed lines symbols) : symbol.Placed moreLines more := by
  cases placed with
  | global scope => exact .global scope
  | builtins scope => exact .builtins scope
  | declared body => exact .declared (body.mono part (Nat.le_refl _))
  | written read number owner => exact .written (partLines read) number owner

namespace Context

/-- Every open body is declared up to the line of the number, not only the innermost one: a line may
close what hides it. -/
structure ScopesDeclared (lines : List Line) (number : Nat) (context : Context) : Prop where
  opened : ∀ scope ∈ context.scopes.opened, BodyDeclared context.symbols number scope.name
  placed : ∀ symbol ∈ context.symbols, symbol.Placed lines context.symbols

private theorem scopesDeclared_initial (number : Nat) : ScopesDeclared [] number initial where
  opened := by simp [initial, ScopeStack.empty]
  placed := by simp [initial]

namespace ScopesDeclared

variable {lines : List Line} {number : Nat} {context : Context}

theorem mono (scopes : ScopesDeclared lines number context) {more : List Line} (part : lines ⊆ more)
    {later : Nat} (upTo : number ≤ later) : ScopesDeclared more later context where
  opened := fun scope member => (scopes.opened scope member).mono (List.Subset.refl _) upTo
  placed := fun symbol member => (scopes.placed symbol member).mono part (List.Subset.refl _)

theorem close (scopes : ScopesDeclared lines number context) :
    ScopesDeclared lines number context.close where
  opened := fun scope member => scopes.opened scope (List.mem_of_mem_tail member)
  placed := scopes.placed

theorem of_atHand (scopes : ScopesDeclared lines number context) {scope : String}
    (atHand : ScopeAtHand context.scopes scope) :
    scope = globalScope ∨ scope = builtinScope ∨ BodyDeclared context.symbols number scope := by
  cases atHand with
  | global => exact .inl rfl
  | builtins => exact .inr (.inl rfl)
  | opened member => exact .inr (.inr (scopes.opened _ member))

variable {line : Line} (read : line ∈ lines) (scopes : ScopesDeclared lines line.number context)

include read scopes

theorem apply (language : Language) {effect : Effect}
    (introduced : effect.Introduced language line.text context.scopes) :
    ScopesDeclared lines line.number (context.apply language line.number effect) where
  opened := by
    intro scope member
    rcases mem_opened_foldl_push member with opens | before
    · obtain ⟨declaration, declared, hasBody, named⟩ := introduced.opens scope opens
      have found :
          declaration.toSymbol language line.number ∈
            (context.apply language line.number effect).symbols :=
        List.mem_append_right _ (List.mem_map.mpr ⟨declaration, declared, rfl⟩)
      exact ⟨_, found, hasBody, named, Nat.le_refl _⟩
    · exact (scopes.opened scope before).mono (List.subset_append_left _ _) (Nat.le_refl _)
  placed := by
    intro symbol member
    rcases List.mem_append.mp member with before | here
    · exact (scopes.placed symbol before).mono (List.Subset.refl _) (List.subset_append_left _ _)
    · obtain ⟨declaration, declared, rfl⟩ := List.mem_map.mp here
      rcases introduced.housed declaration declared with atHand | written
      · rcases scopes.of_atHand atHand with global | builtins | body
        · exact .global global
        · exact .builtins builtins
        · exact .declared (body.mono (List.subset_append_left _ _) (Nat.le_refl _))
      · exact .written read rfl (written line.number)

theorem step {language : Language} (member : language ∈ Language.bodyDeclaring) :
    ScopesDeclared lines line.number (context.step language line) := by
  refine step_preserves (ScopesDeclared lines line.number) ?_ (fun _ => close) scopes
  intro rule listed before found isMatch scopesBefore
  exact (Language.introduces member rule listed _ before found isMatch).imp fun _ =>
    scopesBefore.apply read language

end ScopesDeclared

private theorem run_scopesDeclared {language : Language}
    (member : language ∈ Language.bodyDeclaring) {lines : List Line}
    (increasing : lines.Pairwise fun first second => first.number < second.number) {number : Nat}
    (upTo : ∀ line ∈ lines, line.number ≤ number) :
    ScopesDeclared lines number (run language lines) := by
  refine run_induction
    (fun lines context => (lines.Pairwise fun first second => first.number < second.number) →
      ∀ number, (∀ line ∈ lines, line.number ≤ number) →
        ScopesDeclared lines number context) language
    (fun _ number _ => scopesDeclared_initial number) ?_ lines increasing number upTo
  intro lines line ih increasing number upTo
  have latest := latest_of_increasing increasing
  have before :=
    ih (List.pairwise_append.mp increasing).1 line.number fun earlier member =>
      latest earlier (by simp [member])
  have here : line ∈ lines ++ [line] := by simp
  have after :=
    (before.mono (List.subset_append_left lines [line]) (Nat.le_refl _)).step here member
  exact after.mono (List.Subset.refl _) (upTo line here)

end Context

theorem BodyDeclared.dedup {symbols : List Symbol}
    (ordered : symbols.Pairwise fun first second => first.line ≤ second.line) {number : Nat}
    {name : String} (declared : BodyDeclared symbols number name) :
    BodyDeclared (dedup symbols) number name := by
  obtain ⟨owner, member, hasBody, named, above⟩ := declared
  -- The owner itself may be left out, but then an earlier symbol of the same name and kind is kept.
  obtain ⟨kept, keptMember, sameKey, earlier⟩ := exists_mem_dedup ordered member
  obtain ⟨sameName, _, sameKind⟩ := Symbol.Key.mk.inj sameKey
  exact ⟨kept, keptMember, sameKind ▸ hasBody, sameName.trans named, Nat.le_trans earlier above⟩

private theorem scan_placed {language : Language} (member : language ∈ Language.bodyDeclaring)
    {source : String} {symbol : Symbol} (reported : symbol ∈ scan language source) :
    symbol.Placed (significantLines language source.toList) (scan language source) := by
  have increasing := pairwise_significantLines language source.toList
  have scopes :=
    Context.run_scopesDeclared member increasing fun line read => (of_mem_significantLines read).2.1
  have placed := scopes.placed symbol ((dedup_sublist _).subset reported)
  cases placed with
  | global scope => exact .global scope
  | builtins scope => exact .builtins scope
  | declared body =>
    exact .declared (body.dedup ((Context.run_foundOn language _).ordered increasing))
  | written read number owner => exact .written read number owner

/-- In five of the languages no scope dangles: unless it is one of the two fixed ones, the body that
it names is reported, on a line that is no later, or the line writes the scope in front of the
name. -/
theorem scan_scopes_declared {language : Language}
    (member : language ∈ [.javascript, .python, .java, .c, .go]) (source : String) :
    ∀ symbol ∈ scan language source, symbol.scope ≠ "global" → symbol.scope ≠ "builtins" →
      (∃ owner ∈ scan language source,
        owner.kind ∈ [.function, .classType, .method, .constructor] ∧ owner.name = symbol.scope ∧
        owner.line ≤ symbol.line) ∨
      ∃ line ∈ significantLines language source.toList, line.number = symbol.line ∧
      OwnerWritten line.text symbol := by
  intro symbol reported notGlobal notBuiltins
  cases scan_placed member reported with
  | global scope => exact absurd scope notGlobal
  | builtins scope => exact absurd scope notBuiltins
  | declared body => exact .inl body
  | written read number owner => exact .inr ⟨_, read, number, owner⟩

/-- The second body of a class is under a declaration that is left out as a repetition; the first
one stands in for it. -/
theorem method_of_repeated_class :
    let source := "class A \x7b\n\x7d\nclass A \x7b\nf() \x7b"
    let symbol : Symbol :=
      { name := "f", kind := .method, scope := "A", line := 4, language := .javascript }
    symbol ∈ scan .javascript source ∧
      ∃ owner ∈ scan .javascript source,
        owner.kind ∈ [Kind.function, .classType, .method, .constructor] ∧ owner.name = "A" ∧
          owner.line ≤ 4 := by
  have reported :
      { name := "f", kind := .method, scope := "A", line := 4, language := .javascript } ∈
      scan .javascript "class A \x7b\n\x7d\nclass A \x7b\nf() \x7b" := by decide
  refine ⟨reported, ?_⟩
  rcases scan_scopes_declared (by decide) _ _ reported (by decide)
    (by decide) with declared | ⟨_, _, _, written⟩
  · exact declared
  · -- The method has no description, and Go is another language.
    cases written with
    | staticProperty _ described => cases described
    | prototypeMethod _ described => cases described
    | receiver _ _ _ _ go => cases go

end Symtab
