import Symtab.Proofs.Excerpt
import Symtab.Proofs.Scan

/-!
# Where names come from

No rule makes up a name. What a rule declares or opens is named by a part of the line that it was
tried on, and a scope is one of the two fixed ones, that of an open body, or written on the line
itself. Hence every name and every scope that a scan reports can be pointed at in the program.
-/

set_option autoImplicit false

namespace Symtab

/-!
## Effects
-/

/-- A scope that is there before a line is read: one of the two fixed ones, or that of an open
body. -/
inductive ScopeAtHand (stack : ScopeStack) : String → Prop where
  | global : ScopeAtHand stack globalScope
  | builtins : ScopeAtHand stack builtinScope
  | opened {scope : Scope} (member : scope ∈ stack.opened) : ScopeAtHand stack scope.name

namespace ScopeAtHand

variable (stack : ScopeStack)

theorem current : ScopeAtHand stack stack.current := by
  unfold ScopeStack.current ScopeStack.innermost
  cases innermost : stack.opened.head? with
  | none => exact .global
  | some scope => exact .opened (List.mem_of_head? innermost)

theorem owner : ScopeAtHand stack stack.owner := by
  unfold ScopeStack.owner ScopeStack.nearest?
  cases nearest : (stack.opened ++ [Scope.root]).find? fun scope => scope.kind = .classType with
  | none => exact current stack
  | some scope =>
    rcases List.mem_append.mp (List.mem_of_find?_eq_some nearest) with member | floor
    · exact .opened member
    · cases List.mem_singleton.mp floor
      exact .global

end ScopeAtHand

/-- What can stand as the scope of a declaration on a line. -/
inductive ScopeSource (line : List Char) (stack : ScopeStack) : String → Prop where
  | global : ScopeSource line stack globalScope
  | builtins : ScopeSource line stack builtinScope
  | opened {scope : Scope} (member : scope ∈ stack.opened) : ScopeSource line stack scope.name
  | written {name : String} (excerpt : IsExcerpt line name) : ScopeSource line stack name

namespace ScopeSource

variable (line : List Char) (stack : ScopeStack)

theorem of_atHand {scope : String} (atHand : ScopeAtHand stack scope) :
    ScopeSource line stack scope := by
  cases atHand with
  | global => exact .global
  | builtins => exact .builtins
  | opened member => exact .opened member

theorem current : ScopeSource line stack stack.current :=
  of_atHand line stack (.current stack)

theorem owner : ScopeSource line stack stack.owner :=
  of_atHand line stack (.owner stack)

end ScopeSource

structure Declaration.DrawnFrom (line : List Char) (stack : ScopeStack)
    (declaration : Declaration) : Prop where
  name : IsExcerpt line declaration.name
  scope : ScopeSource line stack declaration.scope

/-- What an effect declares and opens is named on the line, under scopes that are at hand there. -/
structure Effect.DrawnFrom (line : List Char) (stack : ScopeStack) (effect : Effect) : Prop where
  declarations : ∀ declaration ∈ effect.declarations, declaration.DrawnFrom line stack
  opens : ∀ scope ∈ effect.opens, IsExcerpt line scope.name

section Drawn

variable {line : List Char} {stack : ScopeStack}

theorem Declaration.drawnFrom_of? {scope : String} (source : ScopeSource line stack scope)
    (kind : Kind) {raw : List Char} (part : raw <:+: line) (dataType : Option (List Char))
    (description : Option String) :
    ∀ declaration ∈ (Declaration.of? scope kind raw dataType description).toList,
      declaration.DrawnFrom line stack :=
  forall_mem_of? fun _ cleaned => ⟨isExcerpt_of_cleanName? part cleaned, source⟩

theorem Declaration.drawnFrom_filterMap {scope : String} (source : ScopeSource line stack scope)
    (kind : Kind) {names : List (List Char)} (parts : ∀ name ∈ names, name <:+: line)
    (dataType : Option (List Char)) (description : Option String) :
    ∀ declaration ∈ names.filterMap fun name => Declaration.of? scope kind name dataType description,
      declaration.DrawnFrom line stack :=
  forall_mem_filterMap fun raw listed _ cleaned =>
    ⟨isExcerpt_of_cleanName? (parts raw listed) cleaned, source⟩

theorem Scope.isExcerpt_openedIf (leftOpen : Bool) {raw : List Char} (part : raw <:+: line)
    (kind : ScopeKind) :
    ∀ scope ∈ Scope.openedIf leftOpen raw kind, IsExcerpt line scope.name := by
  intro scope member
  cases leftOpen with
  | false => cases member
  | true =>
    obtain ⟨name, cleaned, rfl⟩ := Option.map_eq_some_iff.mp (Option.mem_toList.mp member)
    exact isExcerpt_of_cleanName? part cleaned

namespace Effect

private theorem drawnFrom_nothing : DrawnFrom line stack nothing where
  declarations := by simp [nothing]
  opens := by simp [nothing]

private theorem drawnFrom_ofDeclarations {declarations : List Declaration}
    (drawn : ∀ declaration ∈ declarations, declaration.DrawnFrom line stack) :
    (ofDeclarations declarations).DrawnFrom line stack where
  declarations := drawn
  opens := by simp [ofDeclarations]

private theorem drawnFrom_declaring {declarations : List Declaration}
    (drawn : ∀ declaration ∈ declarations, declaration.DrawnFrom line stack) :
    DrawnFrom line stack { declarations } where
  declarations := drawn
  opens := by simp

private theorem drawnFrom_opening {declarations : List Declaration} {opens : List Scope}
    (drawn : ∀ declaration ∈ declarations, declaration.DrawnFrom line stack)
    (named : ∀ scope ∈ opens, IsExcerpt line scope.name) :
    DrawnFrom line stack { declarations, opens } :=
  ⟨drawn, named⟩

/-- One name is declared, and the body that the line may leave open has the same name. -/
theorem drawnFrom_body {scope : String} (source : ScopeSource line stack scope) (kind : Kind)
    {raw : List Char} (part : raw <:+: line) (dataType : Option (List Char))
    (description : Option String) (leftOpen : Bool) (scopeKind : ScopeKind) :
    DrawnFrom line stack
      { declarations := (Declaration.of? scope kind raw dataType description).toList
        opens := Scope.openedIf leftOpen raw scopeKind } :=
  drawnFrom_opening (Declaration.drawnFrom_of? source kind part dataType description)
    (Scope.isExcerpt_openedIf leftOpen part scopeKind)

end Effect

end Drawn

/-!
## Rules
-/

/-- What the rule does with a match in a line is drawn from the line. -/
def Rule.DrawsFromLine (rule : Rule) : Prop :=
  ∀ line context found, rule.pattern.IsMatch line found →
    Yields (Effect.DrawnFrom line context.scopes) (rule.effect? found.captures line context)

namespace Rules

open Effect Declaration Scope

private theorem macroDefinition_drawsFromLine : macroDefinition.DrawsFromLine := by
  intro line context found isMatch
  exact .bindKept fun name kept =>
    .some (drawnFrom_ofDeclarations
      (drawnFrom_of? (.current _ _) _ (isMatch.text?_isInfix kept) _ _))

theorem C.drawsFromLine : ∀ rule ∈ C.table.cascade, rule.DrawsFromLine := by
  simp only [C.table, List.forall_mem_cons]
  refine ⟨macroDefinition_drawsFromLine, ?function, ?typeDefinition, ?typeDefinitionEnd,
    ?structures, ?plainVariables, by simp⟩
  all_goals intro line context found isMatch
  case function =>
    exact .bindKept fun head _ => .bindKept fun name kept => .ite .none
      (.some (drawnFrom_body (.current _ _) _ (isMatch.text?_isInfix kept) _ _ _ _))
  case typeDefinition | typeDefinitionEnd | structures =>
    exact .bindKept fun name kept =>
      .some (drawnFrom_ofDeclarations
        (drawnFrom_of? (.current _ _) _ (isMatch.text?_isInfix kept) _ _))
  case plainVariables =>
    exact .bindKept fun dataType _ => .bindKept fun name kept => .ite .none
      (.some (drawnFrom_ofDeclarations
        (drawnFrom_of? (.current _ _) _ (isMatch.text?_isInfix kept) _ _)))

/-- A constructor is declared and opened by its name, whichever way its class was found. -/
theorem Cpp.constructorEffect_drawnFrom {line : List Char} {stack : ScopeStack} {owner : String}
    {name : List Char} (source : ScopeSource line stack owner) (part : name <:+: line) :
    (Cpp.constructorEffect line owner name).DrawnFrom line stack :=
  drawnFrom_body source _ part _ _ _ _

theorem CSharp.drawsFromLine : ∀ rule ∈ CSharp.table.cascade, rule.DrawsFromLine := by
  simp only [CSharp.table, List.forall_mem_cons]
  refine ⟨?usings, ?namespaces, ?classes, ?method, ?bareConstructor, ?property,
    ?plainVariables, by simp⟩
  all_goals intro line context found isMatch
  case usings =>
    exact .bindKept fun path kept => .some (drawnFrom_declaring
      (drawnFrom_of? (.current _ _) _ ((Text.lastSegment_isInfix '.' path).trans
        (isMatch.text?_isInfix kept)) _ _))
  case namespaces =>
    exact .bindKept fun name kept =>
      .some (drawnFrom_opening (by simp) (isExcerpt_openedIf true (isMatch.text?_isInfix kept) _))
  case classes =>
    exact .bindKept fun name kept =>
      .some (drawnFrom_body (.current _ _) _ (isMatch.text?_isInfix kept) _ _ _ _)
  case method =>
    refine .bindKept fun dataType _ => .bindKept fun name kept =>
      .ite .none (.some (drawnFrom_opening ?_ ?_))
    · -- With or without a modifier in the place of the type, the name is the same.
      split
      · exact drawnFrom_of? (.current _ _) _ (isMatch.text?_isInfix kept) _ _
      · exact drawnFrom_of? (.current _ _) _ (isMatch.text?_isInfix kept) _ _
    · exact isExcerpt_openedIf _ (isMatch.text?_isInfix kept) _
  case bareConstructor =>
    exact .bindKept fun name kept => .ite .none
      (.some (drawnFrom_body (.current _ _) _ (isMatch.text?_isInfix kept) _ _ _ _))
  case property =>
    exact .bindKept fun dataType _ => .bindKept fun name kept => .ite .none
      (.some (drawnFrom_declaring (drawnFrom_of? (.owner _ _) _ (isMatch.text?_isInfix kept) _ _)))
  case plainVariables =>
    exact .bindKept fun dataType _ => .bindKept fun name kept => .ite .none
      (.some
        (drawnFrom_declaring (drawnFrom_of? (.current _ _) _ (isMatch.text?_isInfix kept) _ _)))

theorem Java.drawsFromLine : ∀ rule ∈ Java.table.cascade, rule.DrawsFromLine := by
  simp only [Java.table, List.forall_mem_cons]
  refine ⟨?package, ?imports, ?classes, ?method, ?bareConstructor, ?plainVariables, by simp⟩
  all_goals intro line context found isMatch
  case package => exact .some drawnFrom_nothing
  case imports =>
    exact .bindKept fun path kept => .ite (.some drawnFrom_nothing) (.some (drawnFrom_declaring
      (drawnFrom_of? (.current _ _) _ ((Text.lastSegment_isInfix '.' path).trans
        (isMatch.text?_isInfix kept)) _ _)))
  case classes =>
    exact .bindKept fun name kept =>
      .some (drawnFrom_body (.current _ _) _ (isMatch.text?_isInfix kept) _ _ _ _)
  case method =>
    refine .bindKept fun dataType _ => .bindKept fun name kept =>
      .ite .none (.some (drawnFrom_opening ?_ ?_))
    · split
      · exact drawnFrom_of? (.current _ _) _ (isMatch.text?_isInfix kept) _ _
      · exact drawnFrom_of? (.current _ _) _ (isMatch.text?_isInfix kept) _ _
    · exact isExcerpt_openedIf _ (isMatch.text?_isInfix kept) _
  case bareConstructor =>
    exact .bindKept fun name kept => .ite .none
      (.some (drawnFrom_body (.current _ _) _ (isMatch.text?_isInfix kept) _ _ _ _))
  case plainVariables =>
    exact .bindKept fun dataType _ => .bindKept fun name kept => .ite .none
      (.some
        (drawnFrom_declaring (drawnFrom_of? (.current _ _) _ (isMatch.text?_isInfix kept) _ _)))

/-!
### Scopes that a line writes itself
-/

private theorem ne_nil_of_reads_word {before text rest : List Char} {captures kept : Captures}
    (reads : Pattern.word.Reads before text rest captures kept) : text ≠ [] :=
  reads.of_many1.1

theorem Go.function_keeps_owner : Go.function.pattern.Keeps .owner (· ≠ []) := by
  have owner : ∀ before text rest captures kept, Pattern.word.Reads before text rest captures kept →
      text ≠ [] :=
    fun _ _ _ _ _ => ne_nil_of_reads_word
  simp only [Go.function, Go.bracketed]
  simpa using owner

theorem JavaScript.staticProperty_keeps_owner :
    JavaScript.staticProperty.pattern.Keeps .owner (· ≠ []) := by
  have owner : ∀ before text rest captures kept,
      (Pattern.one Char.isUpper ++ Pattern.many Text.isWord).Reads before text rest captures kept →
        text ≠ [] := by
    rintro _ _ _ _ _ ⟨_, tail, _, rfl, ⟨⟨c, rfl, _⟩, _⟩, _⟩
    simp
  simp only [JavaScript.staticProperty, JavaScript.assigned]
  simpa using owner

theorem JavaScript.prototypeMethod_keeps_owner :
    JavaScript.prototypeMethod.pattern.Keeps .owner (· ≠ []) := by
  have owner : ∀ before text rest captures kept, Pattern.word.Reads before text rest captures kept →
      text ≠ [] :=
    fun _ _ _ _ _ => ne_nil_of_reads_word
  simp only [JavaScript.prototypeMethod]
  simpa using owner

/-- Without its tilde the name of a destructor is still a name. -/
theorem Cpp.baseName_ne_nil_of_reads {before text rest : List Char} {captures kept : Captures}
    (reads : Cpp.memberName.Reads before text rest captures kept) : Cpp.baseName text ≠ [] := by
  obtain ⟨tilde, word, _, rfl, tildeReads, _, tail, _, rfl, ⟨⟨c, rfl, isWord⟩, _⟩, _⟩ := reads
  have notTilde : (c == '~') = false := by
    rw [beq_eq_false_iff_ne]
    rintro rfl
    exact absurd isWord (by decide)
  rcases tildeReads with ⟨rfl, _⟩ | ⟨rfl, _⟩
  · simp [Cpp.baseName, notTilde]
  · simp [Cpp.baseName, notTilde]

theorem Cpp.constructors_keeps_name :
    Cpp.constructors.pattern.Keeps .name (Cpp.baseName · ≠ []) := by
  have name :
      ∀ before text rest captures kept, Cpp.memberName.Reads before text rest captures kept →
      Cpp.baseName text ≠ [] := fun _ _ _ _ _ => Cpp.baseName_ne_nil_of_reads
  simp only [Cpp.constructors, Cpp.qualification, Cpp.bodyOrSemicolon, Cpp.openBody]
  simpa [Cpp.memberName] using name

theorem Cpp.qualified_within :
    (Cpp.qualification ++ Cpp.memberName).Within (Text.isBlank · = false) := by
  have colons : ∀ c ∈ "::".toList, Text.isBlank c = false := by decide
  have tilde : ∀ c ∈ ['~'], Text.isBlank c = false := by decide
  have word : ∀ c, Text.isWord c = true → Text.isBlank c = false :=
    fun _ => Text.isBlank_eq_false_of_isWord
  exact ⟨⟨⟨word, word⟩, colons⟩, ⟨tilde, trivial⟩, word, word⟩

theorem Cpp.function_keeps_name :
    Cpp.function.pattern.Keeps .name (∀ c ∈ ·, Text.isBlank c = false) := by
  have name : ∀ before text rest captures kept,
      (Cpp.qualification ++ Cpp.memberName).Reads before text rest captures kept →
        ∀ c ∈ text, Text.isBlank c = false :=
    fun _ _ _ _ _ reads => reads.within Cpp.qualified_within
  simp only [Cpp.function, Cpp.templateHead, Cpp.bodyOrSemicolon, Cpp.openBody]
  simpa [Cpp.memberName, Cpp.qualification] using name

theorem Cpp.constructors_drawsFromLine : Cpp.constructors.DrawsFromLine := by
  intro line context found isMatch
  refine .bindKept fun qualification keptOwner => .bindKept fun name keptName => ?_
  dsimp only
  have part := isMatch.text?_isInfix keptName
  split
  · exact .ite .none (.some (Cpp.constructorEffect_drawnFrom (.current _ _) part))
  · split
    · exact .none
    · next sameName =>
      -- The class is named like the constructor, and the name of that is not empty.
      rw [ne_eq, not_not] at sameName
      have nonempty := isMatch.keeps Cpp.constructors_keeps_name keptName
      refine .some (Cpp.constructorEffect_drawnFrom
        (.written (isExcerpt_ofList (sameName ▸ nonempty) ?_)) part)
      exact (Cpp.qualifyingClass_isInfix qualification).trans (isMatch.text?_isInfix keptOwner)

theorem Cpp.function_drawsFromLine : Cpp.function.DrawsFromLine := by
  intro line context found isMatch
  refine .bindKept fun head _ => .bindKept fun qualified kept => .bindKept fun parameters _ =>
    .ite .none ?_
  dsimp only
  have part : Text.lastSegment ':' qualified <:+: line :=
    (Text.lastSegment_isInfix ':' qualified).trans (isMatch.text?_isInfix kept)
  split
  · next owner ownerFound =>
    obtain ⟨inside, nonempty⟩ := Cpp.ownerOf?_part ownerFound
    have written : IsExcerpt line (String.ofList owner) :=
      isExcerpt_ofList (nonempty (isMatch.keeps Cpp.function_keeps_name kept))
        (inside.trans (isMatch.text?_isInfix kept))
    exact .ite (.some (Cpp.constructorEffect_drawnFrom (.written written) part))
      (.some (drawnFrom_body (.written written) _ part _ _ _ _))
  · exact .ite (.some (Cpp.constructorEffect_drawnFrom (.current _ _) part))
      (.some (drawnFrom_body (.current _ _) _ part _ _ _ _))

theorem Cpp.drawsFromLine : ∀ rule ∈ Cpp.table.cascade, rule.DrawsFromLine := by
  simp only [Cpp.table, List.forall_mem_cons]
  refine ⟨macroDefinition_drawsFromLine, ?namespaces, ?classes, Cpp.constructors_drawsFromLine,
    Cpp.function_drawsFromLine, ?plainVariables, by simp⟩
  all_goals intro line context found isMatch
  case namespaces =>
    exact .bindKept fun name kept => .some (drawnFrom_opening (by simp)
      (isExcerpt_openedIf _
        ((Text.lastSegment_isInfix ':' name).trans (isMatch.text?_isInfix kept)) _))
  case classes =>
    exact .bindKept fun name kept =>
      .some (drawnFrom_body (.current _ _) _ (isMatch.text?_isInfix kept) _ _ _ _)
  case plainVariables =>
    exact .bindKept fun dataType _ => .bindKept fun name kept => .bindKept fun tail _ => .ite .none
      (.some (drawnFrom_ofDeclarations
        (drawnFrom_of? (.current _ _) _ (isMatch.text?_isInfix kept) _ _)))

/-- An import in Go is named by a part of the line, whether it has a name before its path or not. -/
theorem Go.importName_isInfix {line : List Char} {binding : Option (List Char)} {path : List Char}
    (bindingInside : ∀ name, binding = some name → name <:+: line) (pathInside : path <:+: line) :
    (binding.filter fun name => name != ['_'] && name != ['.']).getD
      (Text.lastSegment '/' path) <:+: line := by
  cases chosen : binding.filter fun name => name != ['_'] && name != ['.'] with
  | none => exact (Text.lastSegment_isInfix '/' path).trans pathInside
  | some name => exact bindingInside name (Option.filter_eq_some_iff.mp chosen).1

theorem Go.importEffect_drawnFrom {line : List Char} {stack : ScopeStack}
    {binding : Option (List Char)} {path : List Char}
    (bindingInside : ∀ name, binding = some name → name <:+: line) (pathInside : path <:+: line) :
    (Go.importEffect binding path).DrawnFrom line stack :=
  drawnFrom_declaring (drawnFrom_of? .global _ (Go.importName_isInfix bindingInside pathInside) _ _)

theorem Go.function_drawsFromLine : Go.function.DrawsFromLine := by
  intro line context found isMatch
  refine .bindKept fun name kept =>
    .some (drawnFrom_opening ?_ (isExcerpt_openedIf _ (isMatch.text?_isInfix kept) _))
  split
  · next receiver keptOwner =>
    have written : IsExcerpt line (String.ofList receiver) :=
      isExcerpt_ofList (isMatch.keeps Go.function_keeps_owner keptOwner)
        (isMatch.text?_isInfix keptOwner)
    exact drawnFrom_of? (.written written) _ (isMatch.text?_isInfix kept) _ _
  · exact drawnFrom_of? (.current _ _) _ (isMatch.text?_isInfix kept) _ _

theorem Go.identifiers_isInfix {pattern : Pattern} {line : List Char} {found : Pattern.Match}
    (isMatch : pattern.IsMatch line found) {slot : Slot} {names : List Char}
    (kept : found.captures.text? slot = some names) :
    ∀ name ∈ Go.identifiers names, name <:+: line :=
  fun _ member => (Go.infix_of_mem_identifiers member).trans (isMatch.text?_isInfix kept)

theorem Go.drawsFromLine : ∀ rule ∈ Go.table.cascade, rule.DrawsFromLine := by
  simp only [Go.table, List.forall_mem_cons]
  refine ⟨?groupEnd, ?groupImport, ?groupSpec, ?package, ?groupStart, ?imports,
    Go.function_drawsFromLine, ?types, ?constants,
    ?plainVariables, ?shortVariables, ?interfaceMethod, ?field, by simp⟩
  all_goals intro line context found isMatch
  case groupEnd => exact .ite .none (.some ⟨by simp, by simp⟩)
  case groupImport =>
    exact .ite .none (.bindKept fun path kept =>
      .some (Go.importEffect_drawnFrom (fun _ => isMatch.text?_isInfix)
        (isMatch.text?_isInfix kept)))
  case groupSpec =>
    exact .bindKept fun kind _ => .bindKept fun names kept =>
      .some (drawnFrom_declaring (drawnFrom_filterMap
        (.current _ _) _ (Go.identifiers_isInfix isMatch kept) _ _))
  case package => exact .some drawnFrom_nothing
  case groupStart =>
    exact .bindKept fun keyword _ => .bindKept fun group _ => .some ⟨by simp, by simp⟩
  case imports =>
    exact .bindKept fun path kept =>
      .some (Go.importEffect_drawnFrom (fun _ => isMatch.text?_isInfix)
        (isMatch.text?_isInfix kept))
  case types =>
    exact .bindKept fun name kept => .bindKept fun underlying _ =>
      .some (drawnFrom_body (.current _ _) _ (isMatch.text?_isInfix kept) _ _ _ _)
  case constants =>
    exact .bindKept fun name kept =>
      .some (drawnFrom_ofDeclarations
        (drawnFrom_of? (.current _ _) _ (isMatch.text?_isInfix kept) _ _))
  case plainVariables =>
    exact .bindKept fun names kept =>
      .some (drawnFrom_declaring (drawnFrom_filterMap
        (.current _ _) _ (Go.identifiers_isInfix isMatch kept) _ _))
  case shortVariables =>
    exact .bindKept fun names kept => .ite .none
      (.some (drawnFrom_declaring (drawnFrom_filterMap
        (.current _ _) _ (Go.identifiers_isInfix isMatch kept) _ _)))
  case interfaceMethod =>
    exact .bindKept fun name kept => .ite .none
      (.some (drawnFrom_ofDeclarations
        (drawnFrom_of? (.owner _ _) _ (isMatch.text?_isInfix kept) _ _)))
  case field =>
    exact .bindKept fun names kept => .bindKept fun dataType _ => .ite .none
      (.some (drawnFrom_declaring (drawnFrom_filterMap
        (.owner _ _) _ (Go.identifiers_isInfix isMatch kept) _ _)))

/-- The object, the dot and the method of a call stand next to each other. -/
theorem JavaScript.dotted_isInfix {line : List Char} {found : Pattern.Match}
    (isMatch : JavaScript.builtinCall.pattern.IsMatch line found) {owner name : List Char}
    (keptOwner : found.captures.text? .owner = some owner)
    (keptName : found.captures.text? .name = some name) :
    owner ++ '.' :: name <:+: line := by
  obtain ⟨before, text, rest, kept, rfl, reads, rfl⟩ := isMatch
  obtain ⟨_, paren, _, rfl, ⟨_, gap, _, rfl,
    ⟨_, called, _, rfl, ⟨_, dot, _, rfl, ⟨edge, object, _, rfl, edgeReads, ownerReads⟩, dotReads⟩,
      nameReads⟩, gapReads⟩, parenReads⟩ := reads
  obtain ⟨⟨rfl, _⟩, rfl⟩ := edgeReads
  obtain ⟨_, ⟨_, _, _, _, ⟨_, rfl⟩, ⟨_, rfl⟩⟩, rfl⟩ := ownerReads
  obtain ⟨rfl, rfl⟩ := dotReads
  obtain ⟨_, ⟨_, _, _, _, ⟨_, rfl⟩, ⟨_, rfl⟩⟩, rfl⟩ := nameReads
  obtain ⟨_, rfl⟩ := gapReads
  obtain ⟨_, rfl⟩ := parenReads
  cases keptOwner
  cases keptName
  exact ⟨before.reverse, gap ++ paren ++ rest, by simp⟩

theorem JavaScript.constructor_isInfix {line : List Char} {found : Pattern.Match}
    (isMatch : JavaScript.constructors.pattern.IsMatch line found) :
    "constructor".toList <:+: line := by
  obtain ⟨before, text, rest, kept, rfl, reads, _⟩ := isMatch
  obtain ⟨_, paren, _, rfl, ⟨_, gap, _, rfl, ⟨start, written, _, rfl, _, ⟨rfl, _⟩⟩, _⟩, _⟩ := reads
  exact ⟨before.reverse ++ start, gap ++ paren ++ rest, by simp⟩

/-- The names that an import in JavaScript brings in are parts of the line. -/
theorem JavaScript.imports_yields {property : Effect → Prop} {line : List Char} {context : Context}
    {found : Pattern.Match} (isMatch : JavaScript.imports.pattern.IsMatch line found)
    (each : ∀ names : List (List Char), (∀ name ∈ names, name <:+: line) →
      property (ofDeclarations
        (names.filterMap (Declaration.of? context.scopes.current .imported)))) :
    Yields property (JavaScript.imports.effect? found.captures line context) := by
  refine .some (each _ ?_)
  intro name member
  rcases List.mem_append.mp member with first | whole
  · rcases List.mem_append.mp first with default | listed
    · exact isMatch.text?_isInfix (Option.mem_toList.mp (List.mem_filter.mp default).1)
    · obtain ⟨items, kept, item⟩ := List.mem_flatMap.mp listed
      exact (JavaScript.infix_of_mem_importedItems item).trans
        (isMatch.text?_isInfix (Option.mem_toList.mp kept))
  · exact isMatch.text?_isInfix (Option.mem_toList.mp whole)

theorem JavaScript.cascade_drawsFromLine :
    ∀ rule ∈ JavaScript.table.cascade, rule.DrawsFromLine := by
  simp only [JavaScript.table, List.forall_mem_cons]
  refine ⟨?function, ?classes, ?constructors, ?method, ?field, ?destructuring, ?plainVariables,
    ?imports, by simp⟩
  all_goals intro line context found isMatch
  case function | classes =>
    exact .bindKept fun name kept =>
      .some (drawnFrom_body (.current _ _) _ (isMatch.text?_isInfix kept) _ _ _ _)
  case constructors =>
    exact .ite .none
      (.some (drawnFrom_body (.owner _ _) _ (JavaScript.constructor_isInfix isMatch) _ _ _ _))
  case method =>
    exact .bindKept fun name kept => .ite .none
      (.some (drawnFrom_body (.owner _ _) _ (isMatch.text?_isInfix kept) _ _ _ _))
  case field =>
    exact .bindKept fun name kept => .ite .none
      (.some (drawnFrom_ofDeclarations
        (drawnFrom_of? (.owner _ _) _ (isMatch.text?_isInfix kept) _ _)))
  case destructuring =>
    refine .bindKept fun keyword _ => .bindKept fun bindings kept =>
      .some (drawnFrom_ofDeclarations (drawnFrom_filterMap (.current _ _) _ ?_ _ _))
    intro name member
    obtain ⟨binding, split, rfl⟩ := List.mem_map.mp (List.mem_filter.mp member).1
    exact (JavaScript.boundLocal_isInfix binding).trans
      ((Text.infix_of_mem_splitOn split).trans (isMatch.text?_isInfix kept))
  case plainVariables =>
    exact .bindKept fun keyword _ => .bindKept fun name kept =>
      .some (drawnFrom_declaring (drawnFrom_of? (.current _ _) _ (isMatch.text?_isInfix kept) _ _))
  case imports =>
    exact JavaScript.imports_yields isMatch fun _ parts =>
      drawnFrom_ofDeclarations (drawnFrom_filterMap (.current _ _) _ parts _ _)

theorem JavaScript.checks_drawFromLine : ∀ rule ∈ JavaScript.table.checks, rule.DrawsFromLine := by
  simp only [JavaScript.table, List.forall_mem_cons]
  refine ⟨?thisProperty, ?staticProperty, ?prototypeMethod, ?builtinCall, by simp⟩
  all_goals intro line context found isMatch
  case thisProperty =>
    exact .bindKept fun name kept => .ite .none
      (.some (drawnFrom_ofDeclarations
        (drawnFrom_of? (.owner _ _) _ (isMatch.text?_isInfix kept) _ _)))
  case staticProperty =>
    refine .bindKept fun owner keptOwner => .bindKept fun name kept => .ite .none
      (.some (drawnFrom_ofDeclarations
        (drawnFrom_of? (.written ?_) _ (isMatch.text?_isInfix kept) _ _)))
    exact isExcerpt_ofList (isMatch.keeps JavaScript.staticProperty_keeps_owner keptOwner)
      (isMatch.text?_isInfix keptOwner)
  case prototypeMethod =>
    refine .bindKept fun owner keptOwner => .bindKept fun name kept =>
      .some (drawnFrom_ofDeclarations
        (drawnFrom_of? (.written ?_) _ (isMatch.text?_isInfix kept) _ _))
    exact isExcerpt_ofList (isMatch.keeps JavaScript.prototypeMethod_keeps_owner keptOwner)
      (isMatch.text?_isInfix keptOwner)
  case builtinCall =>
    exact .bindKept fun owner keptOwner => .bindKept fun name keptName =>
      .bindKept fun object _ => .ite .none
      (.some (drawnFrom_ofDeclarations
        (drawnFrom_of? .builtins _ (JavaScript.dotted_isInfix isMatch keptOwner keptName) _ _)))

/-- The names that an import in Python brings in are parts of the line. -/
theorem Python.imports_yields {property : Effect → Prop} {line : List Char} {context : Context}
    {found : Pattern.Match}
    (isMatch : Python.imports.pattern.IsMatch line found)
    (each : ∀ names : List (List Char), (∀ name ∈ names, name <:+: line) →
      property (ofDeclarations (names.filterMap fun name =>
        Declaration.of? globalScope .imported name "module".toList))) :
    Yields property (Python.imports.effect? found.captures line context) := by
  refine .some (each _ ?_)
  split
  · next modules _ _ kept =>
    intro name member
    obtain ⟨item, split, rfl⟩ := List.mem_map.mp member
    exact (Python.importedModule_isInfix item).trans
      ((Text.infix_of_mem_splitOn split).trans (isMatch.text?_isInfix kept))
  · next module items _ keptPath keptItems =>
    intro name member
    obtain ⟨item, split, rfl⟩ := List.mem_map.mp member
    exact Python.importedMember_isInfix (isMatch.text?_isInfix keptPath)
      ((Text.infix_of_mem_splitOn split).trans (isMatch.text?_isInfix keptItems))
  · simp

theorem Python.drawsFromLine :
    ∀ rule ∈ Python.table.cascade ++ Python.table.checks, rule.DrawsFromLine := by
  simp only [Python.table, List.cons_append, List.nil_append, List.forall_mem_cons]
  refine ⟨?function, ?classes, ?selfProperty, ?typedVariable, ?plainVariables, ?imports,
    ?builtinCall, by simp⟩
  all_goals intro line context found isMatch
  case function | classes =>
    exact .bindKept fun name kept =>
      .some (drawnFrom_body (.current _ _) _ (isMatch.text?_isInfix kept) _ _ true _)
  case selfProperty =>
    exact .bindKept fun name kept => .ite .none
      (.some (drawnFrom_ofDeclarations
        (drawnFrom_of? (.owner _ _) _ (isMatch.text?_isInfix kept) _ _)))
  case typedVariable =>
    exact .bindKept fun name kept => .bindKept fun dataType _ => .ite .none
      (.some
        (drawnFrom_declaring (drawnFrom_of? (.current _ _) _ (isMatch.text?_isInfix kept) _ _)))
  case plainVariables =>
    refine .bindKept fun targets kept => .ite .none
      (.some (drawnFrom_declaring (drawnFrom_filterMap (.current _ _) _ ?_ _ _)))
    intro name member
    exact (infix_of_mem_commaSeparated (List.mem_filter.mp member).1).trans
      (isMatch.text?_isInfix kept)
  case imports =>
    exact Python.imports_yields isMatch fun _ parts =>
      drawnFrom_ofDeclarations (drawnFrom_filterMap .global _ parts _ _)
  case builtinCall =>
    exact .bindKept fun name kept => .ite .none
      (.some (drawnFrom_ofDeclarations
        (drawnFrom_of? .builtins _ (isMatch.text?_isInfix kept) _ _)))

theorem Rust.importedNames_isInfix {line tree : List Char} {found : Pattern.Match}
    (isMatch : Rust.imports.pattern.IsMatch line found)
    (kept : found.captures.text? .path = some tree) :
    ∀ name ∈ Rust.importedNames (Text.trim tree), name <:+: line :=
  fun _ member => (Rust.infix_of_mem_importedNames member).trans
    ((Text.trim_isInfix tree).trans (isMatch.text?_isInfix kept))

theorem Rust.drawsFromLine : ∀ rule ∈ Rust.table.cascade, rule.DrawsFromLine := by
  simp only [Rust.table, List.forall_mem_cons]
  refine ⟨?imports, ?function, ?implementation, ?traits, ?structures, ?typeAlias, ?modules,
    ?plainVariables, ?tupleVariables, ?statics, ?constants, ?field, by simp⟩
  all_goals intro line context found isMatch
  case imports =>
    exact .bindKept fun tree kept => .some (drawnFrom_ofDeclarations
      (drawnFrom_filterMap (.current _ _) _ (Rust.importedNames_isInfix isMatch kept) _ _))
  case function | traits =>
    exact .bindKept fun name kept =>
      .some (drawnFrom_body (.current _ _) _ (isMatch.text?_isInfix kept) _ _ _ _)
  case implementation | modules =>
    exact .bindKept fun name kept =>
      .some (drawnFrom_opening (by simp) (isExcerpt_openedIf _ (isMatch.text?_isInfix kept) _))
  case structures =>
    exact .bindKept fun keyword _ => .bindKept fun name kept =>
      .some (drawnFrom_body (.current _ _) _ (isMatch.text?_isInfix kept) _ _ _ _)
  case typeAlias | statics | constants =>
    exact .bindKept fun name kept =>
      .some (drawnFrom_ofDeclarations
        (drawnFrom_of? (.current _ _) _ (isMatch.text?_isInfix kept) _ _))
  case plainVariables =>
    exact .bindKept fun name kept => .ite (.some drawnFrom_nothing)
      (.some
        (drawnFrom_declaring (drawnFrom_of? (.current _ _) _ (isMatch.text?_isInfix kept) _ _)))
  case tupleVariables =>
    refine .bindKept fun names kept =>
      .some (drawnFrom_declaring (drawnFrom_filterMap (.current _ _) _ ?_ _ _))
    intro name member
    obtain ⟨piece, split, rfl⟩ := List.mem_map.mp (List.mem_filter.mp member).1
    have inPiece : Text.trim (Text.dropLeading "mut ".toList (Text.trim piece)) <:+: piece :=
      (Text.trim_isInfix _).trans
        ((Text.dropLeading_suffix _ _).isInfix.trans (Text.trim_isInfix piece))
    exact inPiece.trans ((Text.infix_of_mem_splitOn split).trans (isMatch.text?_isInfix kept))
  case field =>
    exact .bindKept fun name kept => .bindKept fun dataType _ => .ite .none
      (.some (drawnFrom_ofDeclarations
        (drawnFrom_of? (.owner _ _) _ (isMatch.text?_isInfix kept) _ _)))

end Rules

theorem Language.drawsFromLine (language : Language) :
    ∀ rule ∈ language.rules.cascade ++ language.rules.checks, rule.DrawsFromLine := by
  cases language with
  | javascript =>
    exact List.forall_mem_append.mpr
      ⟨Rules.JavaScript.cascade_drawsFromLine, Rules.JavaScript.checks_drawFromLine⟩
  | python => exact Rules.Python.drawsFromLine
  | java => exact Rules.Java.drawsFromLine
  | c => exact Rules.C.drawsFromLine
  | cpp => exact Rules.Cpp.drawsFromLine
  | csharp => exact Rules.CSharp.drawsFromLine
  | go => exact Rules.Go.drawsFromLine
  | rust => exact Rules.Rust.drawsFromLine

/-!
## Scans
-/

/-- A scope that is one of the fixed ones, or written on one of the lines up to a number. -/
def ScopeTraced (lines : List Line) (number : Nat) (scope : String) : Prop :=
  scope = globalScope ∨ scope = builtinScope ∨
    ∃ line ∈ lines, line.number ≤ number ∧ IsExcerpt line.text scope

theorem ScopeTraced.mono {lines more : List Line} (part : lines ⊆ more) {number : Nat}
    {scope : String} (traced : ScopeTraced lines number scope) : ScopeTraced more number scope := by
  rcases traced with global | builtins | ⟨line, read, written⟩
  · exact .inl global
  · exact .inr (.inl builtins)
  · exact .inr (.inr ⟨line, part read, written⟩)

theorem mem_opened_foldl_push {opens : List Scope} {stack : ScopeStack} {scope : Scope}
    (member : scope ∈ (opens.foldl ScopeStack.push stack).opened) :
    scope ∈ opens ∨ scope ∈ stack.opened := by
  induction opens generalizing stack with
  | nil => exact .inr member
  | cons first rest ih =>
    rcases ih member with later | below
    · exact .inl (List.mem_cons_of_mem first later)
    · rcases List.mem_cons.mp below with rfl | before
      · exact .inl List.mem_cons_self
      · exact .inr before

theorem raw_of_mem_significantLines {language : Language} {source : List Char} {line : Line}
    (member : line ∈ significantLines language source) :
    1 ≤ line.number ∧ ∃ raw, (Text.lines source)[line.number - 1]? = some raw ∧
    Text.trim raw = line.text := by
  obtain ⟨numbered, _⟩ := List.mem_filter.mp member
  rw [numberedLines_eq, mem_numberFrom, List.getElem?_map, Option.map_eq_some_iff] at numbered
  exact numbered

namespace Context

/-- Everything that a scan has found or holds open can be pointed at in the lines that it has
read. -/
structure Traced (lines : List Line) (context : Context) : Prop where
  names : ∀ symbol ∈ context.symbols, ∃ line ∈ lines, line.number = symbol.line ∧
    IsExcerpt line.text symbol.name
  scopes : ∀ symbol ∈ context.symbols, ScopeTraced lines symbol.line symbol.scope
  opened : ∀ scope ∈ context.scopes.opened, ∃ line ∈ lines, IsExcerpt line.text scope.name

private theorem traced_initial : Traced [] initial where
  names := by simp [initial]
  scopes := by simp [initial]
  opened := by simp [initial, ScopeStack.empty]

theorem Traced.mono {lines more : List Line} (part : lines ⊆ more) {context : Context}
    (traced : Traced lines context) :
    Traced more context where
  names := by
    intro symbol member
    obtain ⟨line, read, written⟩ := traced.names symbol member
    exact ⟨line, part read, written⟩
  scopes := fun symbol member => (traced.scopes symbol member).mono part
  opened := by
    intro scope member
    obtain ⟨line, read, written⟩ := traced.opened scope member
    exact ⟨line, part read, written⟩

theorem Traced.close {lines : List Line} {context : Context} (traced : Traced lines context) :
    Traced lines context.close where
  names := traced.names
  scopes := traced.scopes
  opened := fun scope member => traced.opened scope (List.mem_of_mem_tail member)

section LatestLine

variable {lines : List Line} {line : Line} (read : line ∈ lines)
    (latest : ∀ earlier ∈ lines, earlier.number ≤ line.number)
  {context : Context}

include read latest

/-- An open body was opened on a line that has been read, so that its name serves as a scope on the
latest line. -/
theorem Traced.scopeTraced (traced : Traced lines context) {scope : String}
    (source : ScopeSource line.text context.scopes scope) :
    ScopeTraced lines line.number scope := by
  cases source with
  | global => exact .inl rfl
  | builtins => exact .inr (.inl rfl)
  | opened member =>
    obtain ⟨earlier, earlierRead, written⟩ := traced.opened _ member
    exact .inr (.inr ⟨earlier, earlierRead, latest earlier earlierRead, written⟩)
  | written excerpt => exact .inr (.inr ⟨line, read, Nat.le_refl _, excerpt⟩)

theorem Traced.apply (traced : Traced lines context) (language : Language) {effect : Effect}
    (drawn : effect.DrawnFrom line.text context.scopes) :
    Traced lines (context.apply language line.number effect) where
  names := by
    intro symbol member
    rcases List.mem_append.mp member with before | here
    · exact traced.names symbol before
    · obtain ⟨declaration, declared, rfl⟩ := List.mem_map.mp here
      exact ⟨line, read, rfl, (drawn.declarations declaration declared).name⟩
  scopes := by
    intro symbol member
    rcases List.mem_append.mp member with before | here
    · exact traced.scopes symbol before
    · obtain ⟨declaration, declared, rfl⟩ := List.mem_map.mp here
      exact traced.scopeTraced read latest (drawn.declarations declaration declared).scope
  opened := by
    intro scope member
    rcases mem_opened_foldl_push member with opens | before
    · exact ⟨line, read, drawn.opens scope opens⟩
    · exact traced.opened scope before

theorem Traced.step (traced : Traced lines context) (language : Language) :
    Traced lines (context.step language line) := by
  refine step_preserves (Traced lines) ?_ (fun _ => Traced.close) traced
  intro rule member before found isMatch tracedBefore
  exact (language.drawsFromLine rule member _ before found isMatch).imp fun _ =>
    tracedBefore.apply read latest language

end LatestLine

theorem latest_of_increasing {lines : List Line} {line : Line}
    (increasing : (lines ++ [line]).Pairwise fun first second => first.number < second.number) :
    ∀ earlier ∈ lines ++ [line], earlier.number ≤ line.number := by
  obtain ⟨_, _, below⟩ := List.pairwise_append.mp increasing
  intro earlier member
  rcases List.mem_append.mp member with above | same
  · exact Nat.le_of_lt (below earlier above line (List.mem_singleton.mpr rfl))
  · exact Nat.le_of_eq (congrArg Line.number (List.mem_singleton.mp same))

private theorem run_traced (language : Language) {lines : List Line}
    (increasing : lines.Pairwise fun first second => first.number < second.number) :
    Traced lines (run language lines) := by
  refine run_induction
    (fun lines context => (lines.Pairwise fun first second => first.number < second.number) →
      Traced lines context) language
    (fun _ => traced_initial) ?_ lines increasing
  intro lines line ih increasing
  have traced :=
    (ih (List.pairwise_append.mp increasing).1).mono (List.subset_append_left lines [line])
  exact traced.step (by simp) (latest_of_increasing increasing) language

end Context

private theorem scan_traced {language : Language} {source : String} {symbol : Symbol}
    (member : symbol ∈ scan language source) :
    (∃ line ∈ significantLines language source.toList, line.number = symbol.line ∧
      IsExcerpt line.text symbol.name) ∧
      ScopeTraced (significantLines language source.toList) symbol.line symbol.scope := by
  have traced := Context.run_traced language (pairwise_significantLines language source.toList)
  have found := (dedup_sublist _).subset member
  exact ⟨traced.names symbol found, traced.scopes symbol found⟩

/-- Every name that a scan reports stands on the line that it is reported for. Every scope is one of
the two fixed ones, or stands on that line or on one above it that is neither empty nor a
comment. -/
theorem scan_names_written (language : Language) (source : String) :
    ∀ symbol ∈ scan language source,
      (1 ≤ symbol.line ∧ ∃ raw, (Text.lines source.toList)[symbol.line - 1]? = some raw ∧
        symbol.name ≠ "" ∧ symbol.name.toList <:+: Text.trim raw) ∧
      (symbol.scope = "global" ∨ symbol.scope = "builtins" ∨
        ∃ line ∈ significantLines language source.toList, line.number ≤ symbol.line ∧
          symbol.scope ≠ "" ∧ symbol.scope.toList <:+: line.text) := by
  intro symbol member
  obtain ⟨⟨line, read, same, excerpt⟩, scope⟩ := scan_traced member
  obtain ⟨positive, raw, stands, trimmed⟩ := raw_of_mem_significantLines read
  rw [← trimmed] at excerpt
  rw [← same] at scope ⊢
  exact ⟨⟨positive, raw, stands, excerpt⟩, scope⟩

/-- A method is reported under its class, whose name stands three lines further up. -/
theorem method_written_under_class :
    let source := "class A \x7b\n// f\n\n  f() \x7b"
    let symbol : Symbol :=
      { name := "f", kind := .method, scope := "A", line := 4, language := .javascript }
    symbol ∈ scan .javascript source ∧
      (∃ raw, (Text.lines source.toList)[symbol.line - 1]? = some raw ∧
        symbol.name.toList <:+: Text.trim raw) ∧
      ∃ line ∈ significantLines .javascript source.toList, line.number ≤ symbol.line ∧
        symbol.scope.toList <:+: line.text := by
  have reported :
      { name := "f", kind := .method, scope := "A", line := 4, language := .javascript } ∈
      scan .javascript "class A \x7b\n// f\n\n  f() \x7b" := by decide
  obtain ⟨⟨_, raw, stands, _, name⟩, scope⟩ := scan_names_written .javascript _ _ reported
  refine ⟨reported, ⟨raw, stands, name⟩, ?_⟩
  rcases scope with global | builtins | ⟨line, read, above, _, written⟩
  · exact absurd global (by decide)
  · exact absurd builtins (by decide)
  · exact ⟨line, read, above, written⟩

end Symtab
