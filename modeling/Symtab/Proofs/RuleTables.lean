import Symtab.Rules

/-!
# What the rules do

Every rule of every language is gone through once here. A rule of a cascade opens at most one body,
never the floor, and adds nothing to a scan whose line it leaves to other rules. A check does
nothing but declare. No rule is about a line that is just a closing brace.
-/

set_option autoImplicit false

namespace Symtab

/-!
## Outcomes of a rule
-/

/-- Whatever effect an outcome holds has a property. An outcome without an effect has nothing to
answer for. -/
def Yields (property : Effect → Prop) (outcome : Option Effect) : Prop :=
  ∀ effect ∈ outcome, property effect

namespace Yields

variable {property : Effect → Prop}

theorem none : Yields property none := by
  intro effect member
  cases member

theorem some {effect : Effect} (holds : property effect) : Yields property (some effect) := by
  intro other member
  cases member
  exact holds

theorem bind {α : Type} {source : Option α} {next : α → Option Effect}
    (each : ∀ value, Yields property (next value)) :
    Yields property (source >>= next) := by
  cases source with
  | none => exact none
  | some value => exact each value

theorem bindKept {α : Type} {source : Option α} {next : α → Option Effect}
    (each : ∀ value, source = Option.some value → Yields property (next value)) :
    Yields property (source >>= next) := by
  cases source with
  | none => exact none
  | some value => exact each value rfl

theorem ite {condition : Prop} [Decidable condition] {first second : Option Effect}
    (holds : Yields property first) (otherwise : Yields property second) :
    Yields property (if condition then first else second) := by
  split
  · exact holds
  · exact otherwise

theorem imp {weaker : Effect → Prop} {outcome : Option Effect} (yields : Yields property outcome)
    (implies : ∀ effect, property effect → weaker effect) : Yields weaker outcome :=
  fun effect member => implies effect (yields effect member)

end Yields

/-!
## Declarations

A rule declares identifiers with a kind, a scope and a description of its own; only names and types
come from the line.
-/

namespace Declaration

variable {property : Declaration → Prop} {scope : String} {kind : Kind}
    {dataType : Option (List Char)}
  {description : Option String}

theorem forall_mem_of? {raw : List Char}
    (each : ∀ name, cleanName? raw = some name →
      property { name, kind, scope, dataType := dataType.bind cleanName?, description }) :
    ∀ declaration ∈ (Declaration.of? scope kind raw dataType description).toList,
      property declaration := by
  intro declaration member
  obtain ⟨name, cleaned, rfl⟩ := Option.map_eq_some_iff.mp (Option.mem_toList.mp member)
  exact each name cleaned

theorem forall_mem_filterMap {names : List (List Char)}
    (each : ∀ raw ∈ names, ∀ name, cleanName? raw = some name →
      property { name, kind, scope, dataType := dataType.bind cleanName?, description }) :
    ∀ declaration ∈ names.filterMap fun raw => Declaration.of? scope kind raw dataType description,
      property declaration := by
  intro declaration member
  obtain ⟨raw, listed, declared⟩ := List.mem_filterMap.mp member
  exact forall_mem_of? (each raw listed) declaration (Option.mem_toList.mpr declared)

end Declaration

/-!
## Kinds
-/

/-- Nothing that the effect declares is of one of the kinds. -/
def Effect.Avoids (kinds : List Kind) (effect : Effect) : Prop :=
  ∀ declaration ∈ effect.declarations, declaration.kind ∉ kinds

section Avoids

variable {kinds : List Kind}

theorem Declaration.avoids_of? {kind : Kind} (other : kind ∉ kinds) (scope : String)
    (raw : List Char) (dataType : Option (List Char)) (description : Option String) :
    ∀ declaration ∈ (Declaration.of? scope kind raw dataType description).toList,
      declaration.kind ∉ kinds :=
  forall_mem_of? fun _ _ => other

theorem Declaration.avoids_filterMap {kind : Kind} (other : kind ∉ kinds) (scope : String)
    (names : List (List Char)) (dataType : Option (List Char)) (description : Option String) :
    ∀ declaration ∈ names.filterMap fun raw => Declaration.of? scope kind raw dataType description,
      declaration.kind ∉ kinds :=
  forall_mem_filterMap fun _ _ _ _ => other

namespace Effect

theorem avoids_nothing : nothing.Avoids kinds := by
  simp [nothing, Avoids]

theorem avoids_ofDeclarations {declarations : List Declaration}
    (others : ∀ declaration ∈ declarations, declaration.kind ∉ kinds) :
    (ofDeclarations declarations).Avoids kinds :=
  others

theorem avoids_opening {declarations : List Declaration}
    (others : ∀ declaration ∈ declarations, declaration.kind ∉ kinds) (opens : List Scope) :
    Avoids kinds { declarations, opens } :=
  others

end Effect

end Avoids

/-- Whatever the rule does with a matching line declares nothing of one of the kinds. -/
def Rule.Avoids (kinds : List Kind) (rule : Rule) : Prop :=
  ∀ captures line context, Yields (Effect.Avoids kinds) (rule.effect? captures line context)

/-!
## Orderly effects
-/

/-- At most one body is opened, which is not the floor, and an effect that leaves the line to other
rules adds nothing. -/
structure Effect.Orderly (effect : Effect) : Prop where
  opensOne : effect.opens.length ≤ 1
  opensNoFloor : ∀ scope ∈ effect.opens, scope.kind ≠ .root
  declinesCleanly : effect.claims = false → effect = { claims := false }

namespace Effect

/-- An effect that claims its line and opens no body is orderly, whatever it declares and whichever
group it enters. -/
theorem orderly_of_opens_nil {effect : Effect} (opens : effect.opens = [])
    (claims : effect.claims = true) :
    effect.Orderly where
  opensOne := by simp [opens]
  opensNoFloor := by simp [opens]
  declinesCleanly := by simp [claims]

private theorem orderly_ofDeclarations (declarations : List Declaration) :
    (ofDeclarations declarations).Orderly where
  opensOne := by simp [ofDeclarations]
  opensNoFloor := by simp [ofDeclarations]
  declinesCleanly := by
    intro declined
    cases declarations with
    | nil => rfl
    | cons first rest => cases declined

/-- A claimed line may open the body that a declaration leaves open. -/
theorem orderly_openedIf (declarations : List Declaration) (leftOpen : Bool) (raw : List Char)
    {kind : ScopeKind} (notFloor : kind ≠ .root) :
    Orderly { declarations, opens := Scope.openedIf leftOpen raw kind } where
  opensOne := by
    cases leftOpen with
    | false => exact Nat.zero_le 1
    | true => cases cleaned : cleanName? raw <;> simp [Scope.openedIf, Scope.of?, cleaned]
  opensNoFloor := by
    intro scope member
    cases leftOpen with
    | false => cases member
    | true =>
      simp only [Scope.openedIf, Scope.of?, if_true, Option.mem_toList,
        Option.map_eq_some_iff] at member
      obtain ⟨name, _, rfl⟩ := member
      exact notFloor
  declinesCleanly := by
    intro declined
    cases declined

end Effect

/-- Whatever the rule does with a matching line is orderly. -/
def Rule.Orderly (rule : Rule) : Prop :=
  ∀ captures line context, Yields Effect.Orderly (rule.effect? captures line context)

/-- The rule does nothing with a matching line but declare names, and leaves the line to other rules
if it finds none. -/
def Rule.OnlyDeclares (rule : Rule) : Prop :=
  ∀ captures line context,
    Yields (fun effect => ∃ declarations, effect = Effect.ofDeclarations declarations)
      (rule.effect? captures line context)

theorem Rule.OnlyDeclares.orderly {rule : Rule} (onlyDeclares : rule.OnlyDeclares) :
    rule.Orderly := by
  intro captures line context
  refine (onlyDeclares captures line context).imp ?_
  rintro _ ⟨declarations, rfl⟩
  exact Effect.orderly_ofDeclarations declarations

/-!
## The tables
-/

namespace Rules

open Effect

private theorem macroDefinition_orderly : macroDefinition.Orderly := by
  intro captures line context
  exact .bind fun _ => .some (orderly_ofDeclarations _)

theorem C.typeAlias_yields (captures : Captures) (context : Context) :
    Yields Orderly (C.typeAlias captures context) :=
  .bind fun _ => .some (orderly_ofDeclarations _)

theorem C.cascade_orderly : ∀ rule ∈ C.table.cascade, rule.Orderly := by
  simp only [C.table, List.forall_mem_cons]
  refine ⟨macroDefinition_orderly, ?function, ?typeDefinition, ?typeDefinitionEnd, ?structures,
    ?plainVariables, by simp⟩
  all_goals intro captures line context
  case function =>
    exact .bind fun _ => .bind fun _ => .ite .none (.some (orderly_openedIf _ _ _ nofun))
  case typeDefinition => exact C.typeAlias_yields captures context
  case typeDefinitionEnd => exact C.typeAlias_yields captures context
  case structures => exact .bind fun _ => .some (orderly_ofDeclarations _)
  case plainVariables =>
    exact .bind fun _ => .bind fun _ => .ite .none (.some (orderly_ofDeclarations _))

/-- Two rules end in the effect of a constructor, on two paths each; it opens one body on all of
them. -/
theorem Cpp.constructorEffect_orderly (line : List Char) (owner : String) (name : List Char) :
    (Cpp.constructorEffect line owner name).Orderly :=
  orderly_openedIf _ _ _ nofun

theorem Cpp.function_orderly : Cpp.function.Orderly := by
  intro captures line context
  refine .bind fun _ => .bind fun _ => .bind fun _ => .ite .none ?_
  dsimp only
  -- Qualified or not, a name is that of a constructor or of a function, and each opens the one body
  -- of its own.
  split
  · exact .ite (.some (Cpp.constructorEffect_orderly _ _ _)) (.some (orderly_openedIf _ _ _ nofun))
  · exact .ite (.some (Cpp.constructorEffect_orderly _ _ _)) (.some (orderly_openedIf _ _ _ nofun))

theorem Cpp.cascade_orderly : ∀ rule ∈ Cpp.table.cascade, rule.Orderly := by
  simp only [Cpp.table, List.forall_mem_cons]
  refine ⟨macroDefinition_orderly, ?namespaces, ?classes, ?constructors, Cpp.function_orderly,
    ?plainVariables, by simp⟩
  all_goals intro captures line context
  case namespaces => exact .bind fun _ => .some (orderly_openedIf [] _ _ nofun)
  case classes => exact .bind fun _ => .some (orderly_openedIf _ _ _ nofun)
  case constructors =>
    exact .bind fun _ => .bind fun _ => .ite
      (.ite .none (.some (Cpp.constructorEffect_orderly _ _ _)))
      (.ite .none (.some (Cpp.constructorEffect_orderly _ _ _)))
  case plainVariables =>
    exact .bind fun _ => .bind fun _ => .bind fun _ => .ite .none (.some (orderly_ofDeclarations _))

theorem CSharp.cascade_orderly : ∀ rule ∈ CSharp.table.cascade, rule.Orderly := by
  simp only [CSharp.table, List.forall_mem_cons]
  refine ⟨?usings, ?namespaces, ?classes, ?method, ?bareConstructor, ?property,
    ?plainVariables, by simp⟩
  all_goals intro captures line context
  case usings => exact .bind fun _ => .some (orderly_of_opens_nil rfl rfl)
  case namespaces => exact .bind fun _ => .some (orderly_openedIf [] true _ nofun)
  case classes => exact .bind fun _ => .some (orderly_openedIf _ _ _ nofun)
  case method =>
    exact .bind fun _ => .bind fun _ => .ite .none (.some (orderly_openedIf _ _ _ nofun))
  case bareConstructor => exact .bind fun _ => .ite .none (.some (orderly_openedIf _ _ _ nofun))
  case property =>
    exact .bind fun _ => .bind fun _ => .ite .none (.some (orderly_of_opens_nil rfl rfl))
  case plainVariables =>
    exact .bind fun _ => .bind fun _ => .ite .none (.some (orderly_of_opens_nil rfl rfl))

theorem Java.cascade_orderly : ∀ rule ∈ Java.table.cascade, rule.Orderly := by
  simp only [Java.table, List.forall_mem_cons]
  refine ⟨?package, ?imports, ?classes, ?method, ?bareConstructor, ?plainVariables, by simp⟩
  all_goals intro captures line context
  case package => exact .some (orderly_of_opens_nil rfl rfl)
  case imports =>
    exact .bind fun _ => .ite (.some (orderly_of_opens_nil rfl rfl))
      (.some (orderly_of_opens_nil rfl rfl))
  case classes => exact .bind fun _ => .some (orderly_openedIf _ _ _ nofun)
  case method =>
    exact .bind fun _ => .bind fun _ => .ite .none (.some (orderly_openedIf _ _ _ nofun))
  case bareConstructor => exact .bind fun _ => .ite .none (.some (orderly_openedIf _ _ _ nofun))
  case plainVariables =>
    exact .bind fun _ => .bind fun _ => .ite .none (.some (orderly_of_opens_nil rfl rfl))

theorem Go.cascade_orderly : ∀ rule ∈ Go.table.cascade, rule.Orderly := by
  simp only [Go.table, List.forall_mem_cons]
  refine ⟨?groupEnd, ?groupImport, ?groupSpec, ?package, ?groupStart, ?imports, ?function, ?types,
    ?constants, ?plainVariables, ?shortVariables, ?interfaceMethod, ?field, by simp⟩
  all_goals intro captures line context
  case groupEnd => exact .ite .none (.some (orderly_of_opens_nil rfl rfl))
  case groupImport => exact .ite .none (.bind fun _ => .some (orderly_of_opens_nil rfl rfl))
  case groupSpec => exact .bind fun _ => .bind fun _ => .some (orderly_of_opens_nil rfl rfl)
  case package => exact .some (orderly_of_opens_nil rfl rfl)
  case groupStart => exact .bind fun _ => .bind fun _ => .some (orderly_of_opens_nil rfl rfl)
  case imports => exact .bind fun _ => .some (orderly_of_opens_nil rfl rfl)
  case function => exact .bind fun _ => .some (orderly_openedIf _ _ _ nofun)
  case types => exact .bind fun _ => .bind fun _ => .some (orderly_openedIf _ _ _ nofun)
  case constants => exact .bind fun _ => .some (orderly_ofDeclarations _)
  case plainVariables => exact .bind fun _ => .some (orderly_of_opens_nil rfl rfl)
  case shortVariables => exact .bind fun _ => .ite .none (.some (orderly_of_opens_nil rfl rfl))
  case interfaceMethod => exact .bind fun _ => .ite .none (.some (orderly_ofDeclarations _))
  case field =>
    exact .bind fun _ => .bind fun _ => .ite .none (.some (orderly_of_opens_nil rfl rfl))

theorem JavaScript.cascade_orderly : ∀ rule ∈ JavaScript.table.cascade, rule.Orderly := by
  simp only [JavaScript.table, List.forall_mem_cons]
  refine ⟨?function, ?classes, ?constructors, ?method, ?field, ?destructuring, ?plainVariables,
    ?imports, by simp⟩
  all_goals intro captures line context
  case function => exact .bind fun _ => .some (orderly_openedIf _ _ _ nofun)
  case classes => exact .bind fun _ => .some (orderly_openedIf _ _ _ nofun)
  case constructors => exact .ite .none (.some (orderly_openedIf _ _ _ nofun))
  case method => exact .bind fun _ => .ite .none (.some (orderly_openedIf _ _ _ nofun))
  case field => exact .bind fun _ => .ite .none (.some (orderly_ofDeclarations _))
  case destructuring => exact .bind fun _ => .bind fun _ => .some (orderly_ofDeclarations _)
  case plainVariables => exact .bind fun _ => .bind fun _ => .some (orderly_of_opens_nil rfl rfl)
  case imports => exact .some (orderly_ofDeclarations _)

theorem JavaScript.checks_onlyDeclare : ∀ rule ∈ JavaScript.table.checks, rule.OnlyDeclares := by
  simp only [JavaScript.table, List.forall_mem_cons]
  refine ⟨?thisProperty, ?staticProperty, ?prototypeMethod, ?builtinCall, by simp⟩
  all_goals intro captures line context
  case thisProperty => exact .bind fun _ => .ite .none (.some ⟨_, rfl⟩)
  case staticProperty => exact .bind fun _ => .bind fun _ => .ite .none (.some ⟨_, rfl⟩)
  case prototypeMethod => exact .bind fun _ => .bind fun _ => .some ⟨_, rfl⟩
  case builtinCall => exact .bind fun _ => .bind fun _ => .bind fun _ => .ite .none (.some ⟨_, rfl⟩)

theorem Python.cascade_orderly : ∀ rule ∈ Python.table.cascade, rule.Orderly := by
  simp only [Python.table, List.forall_mem_cons]
  refine ⟨?function, ?classes, ?selfProperty, ?typedVariable, ?plainVariables, ?imports, by simp⟩
  all_goals intro captures line context
  case function => exact .bind fun _ => .some (orderly_openedIf _ true _ nofun)
  case classes => exact .bind fun _ => .some (orderly_openedIf _ true _ nofun)
  case selfProperty => exact .bind fun _ => .ite .none (.some (orderly_ofDeclarations _))
  case typedVariable =>
    exact .bind fun _ => .bind fun _ => .ite .none (.some (orderly_of_opens_nil rfl rfl))
  case plainVariables => exact .bind fun _ => .ite .none (.some (orderly_of_opens_nil rfl rfl))
  case imports => exact .some (orderly_ofDeclarations _)

theorem Python.checks_onlyDeclare : ∀ rule ∈ Python.table.checks, rule.OnlyDeclares := by
  simp only [Python.table, List.forall_mem_singleton]
  intro captures line context
  exact .bind fun _ => .ite .none (.some ⟨_, rfl⟩)

theorem Rust.cascade_orderly : ∀ rule ∈ Rust.table.cascade, rule.Orderly := by
  simp only [Rust.table, List.forall_mem_cons]
  refine ⟨?imports, ?function, ?implementation, ?traits, ?structures, ?typeAlias, ?modules,
    ?plainVariables, ?tupleVariables, ?statics, ?constants, ?field, by simp⟩
  all_goals intro captures line context
  case imports => exact .bind fun _ => .some (orderly_ofDeclarations _)
  case function => exact .bind fun _ => .some (orderly_openedIf _ _ _ nofun)
  case implementation => exact .bind fun _ => .some (orderly_openedIf [] _ _ nofun)
  case traits => exact .bind fun _ => .some (orderly_openedIf _ _ _ nofun)
  case structures => exact .bind fun _ => .bind fun _ => .some (orderly_openedIf _ _ _ nofun)
  case typeAlias => exact .bind fun _ => .some (orderly_ofDeclarations _)
  case modules => exact .bind fun _ => .some (orderly_openedIf [] _ _ nofun)
  case plainVariables =>
    exact .bind fun _ => .ite (.some (orderly_of_opens_nil rfl rfl))
      (.some (orderly_of_opens_nil rfl rfl))
  case tupleVariables => exact .bind fun _ => .some (orderly_of_opens_nil rfl rfl)
  case statics => exact .bind fun _ => .some (orderly_ofDeclarations _)
  case constants => exact .bind fun _ => .some (orderly_ofDeclarations _)
  case field => exact .bind fun _ => .bind fun _ => .ite .none (.some (orderly_ofDeclarations _))

end Rules

namespace Language

theorem cascade_orderly (language : Language) : ∀ rule ∈ language.rules.cascade, rule.Orderly := by
  cases language with
  | javascript => exact Rules.JavaScript.cascade_orderly
  | python => exact Rules.Python.cascade_orderly
  | java => exact Rules.Java.cascade_orderly
  | c => exact Rules.C.cascade_orderly
  | cpp => exact Rules.Cpp.cascade_orderly
  | csharp => exact Rules.CSharp.cascade_orderly
  | go => exact Rules.Go.cascade_orderly
  | rust => exact Rules.Rust.cascade_orderly

theorem checks_onlyDeclare (language : Language) :
    ∀ rule ∈ language.rules.checks, rule.OnlyDeclares := by
  cases language with
  | javascript => exact Rules.JavaScript.checks_onlyDeclare
  | python => exact Rules.Python.checks_onlyDeclare
  | java | c | cpp | csharp | go | rust => intro rule member; cases member

/-- Every rule of a language is orderly, whether it stands in the cascade or among the checks. -/
theorem rules_orderly (language : Language) {rule : Rule}
    (member : rule ∈ language.rules.cascade ∨ rule ∈ language.rules.checks) : rule.Orderly := by
  rcases member with inCascade | inChecks
  · exact language.cascade_orderly rule inCascade
  · exact (language.checks_onlyDeclare rule inChecks).orderly

/-- A closing brace with nothing beside it has the shape of no declaration in any language. -/
theorem find?_closingBrace (language : Language) :
    ∀ rule ∈ language.rules.cascade ++ language.rules.checks, rule.pattern.find? ['}'] = none := by
  cases language <;> decide

end Language

end Symtab
