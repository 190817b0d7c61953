import Symtab.Proofs.Provenance

/-!
# Calls of built-in names

A call of a built-in name is reported where no symbol of the name has been found before, under the
one scope that such names have. As the names found so far are those of all symbols, whichever rule
has declared them, no built-in name is reported after a symbol of the same name, and none that is
called is missing in the end.
-/

set_option autoImplicit false

namespace Symtab

/-- The built-in names of a language, as they are written in a call. -/
def Language.builtinNames : Language → List String
  | .python => Builtin.pythonNames
  | .javascript =>
    Builtin.javascriptObjects.flatMap fun object => object.methods.map fun method =>
      object.name ++ "." ++ method
  | _ => []

/-- A match on the line is the call of a built-in name. -/
inductive CallsBuiltin (line : List Char) : Language → String → Prop where
  | python {found : Pattern.Match} {name : String}
      (listed : found ∈ Rules.Python.builtinCall.pattern.findAll line)
      (called : found.captures.text? .name = some name.toList)
        (registered : name ∈ Builtin.pythonNames) :
      CallsBuiltin line .python name
  | javascript {found : Pattern.Match} {object : Builtin.GlobalObject} {method : String}
      (listed : found ∈ Rules.JavaScript.builtinCall.pattern.findAll line)
      (calledOn : found.captures.text? .owner = some object.name.toList)
      (called : found.captures.text? .name = some method.toList)
      (registered : object ∈ Builtin.javascriptObjects) (hasMethod : method ∈ object.methods) :
      CallsBuiltin line .javascript (object.name ++ "." ++ method)

theorem Language.plain_of_mem_builtinNames {language : Language} {name : String}
    (registered : name ∈ language.builtinNames) :
    name.toList ≠ [] ∧ ∀ c ∈ name.toList, Text.isBlank c = false ∧ isQuote c = false := by
  cases language with
  | python =>
    have plain : ∀ name ∈ Builtin.pythonNames,
        name.toList ≠ [] ∧ ∀ c ∈ name.toList, Text.isBlank c = false ∧ isQuote c = false := by
          decide +kernel
    exact plain name registered
  | javascript =>
    have plain : ∀ object ∈ Builtin.javascriptObjects, ∀ method ∈ object.methods,
        ∀ c ∈ object.name.toList ++ '.' :: method.toList, Text.isBlank c = false ∧
          isQuote c = false := by decide +kernel
    obtain ⟨object, listed, inMethods⟩ := List.mem_flatMap.mp registered
    obtain ⟨method, hasMethod, rfl⟩ := List.mem_map.mp inMethods
    have spelled :
        (object.name ++ "." ++ method).toList = object.name.toList ++ '.' :: method.toList := by
      simp
    rw [spelled]
    exact ⟨by simp, plain object listed method hasMethod⟩
  | java | c | cpp | csharp | go | rust => cases registered

theorem Language.cleanName?_builtinName {language : Language} {name : String}
    (registered : name ∈ language.builtinNames) :
    cleanName? name.toList = some name := by
  obtain ⟨nonempty, plain⟩ := plain_of_mem_builtinNames registered
  rw [cleanName?_of_clean nonempty (fun c member => (plain c member).1) fun c member =>
    (plain c member).2, String.ofList_toList]

/-!
## Rules
-/

/-- What an effect declares as built in is one registered name, which is new to the scan. -/
inductive Effect.NewBuiltins (language : Language) (context : Context) (effect : Effect) :
    Prop where
  | none (avoids : effect.Avoids [.builtin])
  | one (declaration : Declaration) (only : effect.declarations = [declaration])
      (scope : declaration.scope = builtinScope)
      (registered : declaration.name ∈ language.builtinNames)
        (new : declaration.name ∉ context.names)

def Rule.ReportsNewBuiltins (language : Language) (rule : Rule) : Prop :=
  ∀ line context found, rule.pattern.IsMatch line found →
    Yields (Effect.NewBuiltins language context) (rule.effect? found.captures line context)

theorem Rule.Avoids.reportsNewBuiltins {rule : Rule} (avoids : rule.Avoids [.builtin])
    (language : Language) :
    rule.ReportsNewBuiltins language := by
  intro line context found _
  exact (avoids found.captures line context).imp fun _ => .none

namespace Rules

open Effect Declaration

theorem Python.cascade_avoids : ∀ rule ∈ Python.table.cascade, rule.Avoids [.builtin] := by
  simp only [Python.table, List.forall_mem_cons]
  refine ⟨?function, ?classes, ?selfProperty, ?typedVariable, ?plainVariables, ?imports, by simp⟩
  all_goals intro captures line context
  case function =>
    have other :
        (if context.scopes.currentKind = .classType then Kind.method else .function) ∉
          [Kind.builtin] := by
      split
      · decide
      · decide
    exact .bind fun _ => .some (avoids_opening (avoids_of? other _ _ _ _) _)
  case classes => exact .bind fun _ => .some (avoids_opening (avoids_of? (by decide) _ _ _ _) _)
  case selfProperty =>
    exact .bind fun _ => .ite .none (.some (avoids_ofDeclarations (avoids_of? (by decide) _ _ _ _)))
  case typedVariable =>
    exact .bind fun _ => .bind fun _ =>
      .ite .none (.some (avoids_opening (avoids_of? (by decide) _ _ _ _) []))
  case plainVariables =>
    exact .bind fun _ => .ite .none
      (.some (avoids_opening (avoids_filterMap (by decide) _ _ _ _) []))
  case imports => exact .some (avoids_ofDeclarations (avoids_filterMap (by decide) _ _ _ _))

theorem JavaScript.declaredKind_avoids (keyword : List Char) :
    JavaScript.declaredKind keyword ∉ [Kind.builtin] := by
  unfold JavaScript.declaredKind
  split
  · decide
  · decide

theorem JavaScript.avoids :
    ∀ rule ∈ JavaScript.table.cascade ++ [JavaScript.thisProperty, JavaScript.staticProperty,
    JavaScript.prototypeMethod], rule.Avoids [.builtin] := by
  simp only [JavaScript.table, List.cons_append, List.nil_append, List.forall_mem_cons]
  refine ⟨?function, ?classes, ?constructors, ?method, ?field, ?destructuring, ?plainVariables,
    ?imports, ?thisProperty, ?staticProperty, ?prototypeMethod, by simp⟩
  all_goals intro captures line context
  case function | classes =>
    exact .bind fun _ => .some (avoids_opening (avoids_of? (by decide) _ _ _ _) _)
  case constructors => exact .ite .none (.some (avoids_opening (avoids_of? (by decide) _ _ _ _) _))
  case method =>
    exact .bind fun _ => .ite .none (.some (avoids_opening (avoids_of? (by decide) _ _ _ _) _))
  case field | thisProperty =>
    exact .bind fun _ => .ite .none (.some (avoids_ofDeclarations (avoids_of? (by decide) _ _ _ _)))
  case destructuring =>
    exact .bind fun keyword => .bind fun _ => .some
      (avoids_ofDeclarations (avoids_filterMap (JavaScript.declaredKind_avoids keyword) _ _ _ _))
  case plainVariables =>
    exact .bind fun keyword => .bind fun _ => .some
      (avoids_opening (avoids_of? (JavaScript.declaredKind_avoids keyword) _ _ _ _) [])
  case imports => exact .some (avoids_ofDeclarations (avoids_filterMap (by decide) _ _ _ _))
  case staticProperty =>
    exact .bind fun _ => .bind fun _ =>
      .ite .none (.some (avoids_ofDeclarations (avoids_of? (by decide) _ _ _ _)))
  case prototypeMethod =>
    exact .bind fun _ => .bind fun _ =>
      .some (avoids_ofDeclarations (avoids_of? (by decide) _ _ _ _))

private theorem toList_of?_builtinName {language : Language} {name : String}
    (registered : name ∈ language.builtinNames) (dataType : Option (List Char)) :
    (Declaration.of? builtinScope .builtin name.toList dataType).toList =
      [{ name, kind := .builtin, scope := builtinScope, dataType := dataType.bind cleanName? }] := by
  rw [Declaration.of?, Language.cleanName?_builtinName registered]
  rfl

private theorem newBuiltins_of? {language : Language} {context : Context} {name : String}
    (registered : name ∈ language.builtinNames) (new : name ∉ context.names)
    (dataType : Option (List Char)) :
    (ofDeclarations (Declaration.of? builtinScope .builtin name.toList dataType).toList).NewBuiltins
      language context := by
  rw [toList_of?_builtinName registered]
  exact .one _ rfl rfl registered new

/-- With the texts of a call in hand, only a symbol of the name that was found before keeps the call
from being reported. -/
theorem Python.builtinCall_effect? {captures : Captures} {name : String}
    (called : captures.text? .name = some name.toList) (registered : name ∈ Builtin.pythonNames)
    {context : Context} (new : name ∉ context.names) (line : List Char) :
    Python.builtinCall.effect? captures line context =
      some (ofDeclarations
        (Declaration.of? builtinScope .builtin name.toList
          "builtin_function_or_method".toList).toList) := by
  have isBuiltin : Python.isBuiltin name.toList = true := by
    simpa [Python.isBuiltin, Builtin.isPythonName] using registered
  have unseen : context.hasName (String.ofList name.toList) = false := by
    simpa [Context.hasName] using new
  simp only [Python.builtinCall, called, Option.bind_eq_bind, Option.bind_some, isBuiltin, unseen]
  rfl

theorem Python.builtinCall_reportsNewBuiltins : Python.builtinCall.ReportsNewBuiltins .python := by
  intro line context found _
  refine .bind fun name => ?_
  split
  · exact .none
  · next called =>
    rw [Bool.or_eq_true, not_or, Bool.not_eq_true', Bool.not_eq_false] at called
    obtain ⟨builtin, unseen⟩ := called
    have registered : String.ofList name ∈ Builtin.pythonNames := by
      simpa [Python.isBuiltin, Builtin.isPythonName] using builtin
    have new : String.ofList name ∉ context.names := by simpa [Context.hasName] using unseen
    rw [← String.toList_ofList (l := name)]
    exact .some (newBuiltins_of? registered new _)

theorem JavaScript.javascriptObject?_name : ∀ object ∈ Builtin.javascriptObjects,
    Builtin.javascriptObject? object.name = some object := by
  decide

theorem JavaScript.registered_of_javascriptMethod? {owner method : String}
    {object : Builtin.GlobalObject} (found : Builtin.javascriptMethod? owner method = some object) :
    owner ++ "." ++ method ∈ Language.javascript.builtinNames := by
  obtain ⟨named, hasMethod⟩ := Option.filter_eq_some_iff.mp found
  have same : object.name = owner := by simpa using List.find?_some named
  rw [← same]
  exact List.mem_flatMap.mpr ⟨object, List.mem_of_find?_eq_some named,
    List.mem_map.mpr ⟨method, by simpa using hasMethod, rfl⟩⟩

theorem JavaScript.builtinCall_effect? {captures : Captures} {object : Builtin.GlobalObject}
    {method : String} (calledOn : captures.text? .owner = some object.name.toList)
    (called : captures.text? .name = some method.toList)
    (registered : object ∈ Builtin.javascriptObjects) (hasMethod : method ∈ object.methods)
    {context : Context} (new : object.name ++ "." ++ method ∉ context.names) (line : List Char) :
    JavaScript.builtinCall.effect? captures line context =
      some (ofDeclarations (Declaration.of? builtinScope .builtin
        (object.name ++ "." ++ method).toList
        object.typeTag.toList).toList) := by
  have found : Builtin.javascriptMethod? object.name method = some object := by
    simp [Builtin.javascriptMethod?, JavaScript.javascriptObject?_name object registered, hasMethod]
  have spelled :
      object.name.toList ++ '.' :: method.toList = (object.name ++ "." ++ method).toList := by simp
  have unseen : context.hasName (object.name ++ "." ++ method) = false := by
    simpa [Context.hasName] using new
  simp only [JavaScript.builtinCall, calledOn, called, Option.bind_eq_bind, Option.bind_some,
    String.ofList_toList, found, spelled, unseen]
  rfl

theorem JavaScript.builtinCall_reportsNewBuiltins :
    JavaScript.builtinCall.ReportsNewBuiltins .javascript := by
  intro line context found _
  refine .bind fun owner => .bind fun name => .bindKept fun object registered => ?_
  have spelled :
      owner ++ '.' :: name = (String.ofList owner ++ "." ++ String.ofList name).toList := by simp
  rw [spelled]
  dsimp only
  rw [String.ofList_toList]
  split
  · exact .none
  · next unseen =>
    have new : String.ofList owner ++ "." ++ String.ofList name ∉ context.names := by
      simpa [Context.hasName] using unseen
    exact .some (newBuiltins_of? (JavaScript.registered_of_javascriptMethod? registered) new _)

end Rules

theorem Language.reportNewBuiltins {language : Language}
    (member : language ∈ [.python, .javascript]) :
    ∀ rule ∈ language.rules.cascade ++ language.rules.checks, rule.ReportsNewBuiltins language := by
  simp only [List.mem_cons, List.not_mem_nil, or_false] at member
  rcases member with rfl | rfl
  · refine List.forall_mem_append.mpr
      ⟨fun rule listed => (Rules.Python.cascade_avoids rule listed).reportsNewBuiltins _, ?_⟩
    exact List.forall_mem_singleton.mpr Rules.Python.builtinCall_reportsNewBuiltins
  · obtain ⟨cascade, checks⟩ := List.forall_mem_append.mp Rules.JavaScript.avoids
    refine List.forall_mem_append.mpr
      ⟨fun rule listed => (cascade rule listed).reportsNewBuiltins _, ?_⟩
    have others := fun rule listed => (checks rule listed).reportsNewBuiltins .javascript
    exact List.forall_mem_append.mpr
      ⟨others, List.forall_mem_singleton.mpr Rules.JavaScript.builtinCall_reportsNewBuiltins⟩

/-!
## Once
-/

namespace Context

/-- No symbol for a built-in name comes after one of the same name, and each is registered. -/
structure BuiltinsOnce (language : Language) (context : Context) : Prop where
  recorded : context.NamesRecorded
  once : context.symbols.Pairwise fun first second =>
    second.kind = .builtin → first.name ≠ second.name
  registered : ∀ symbol ∈ context.symbols, symbol.kind = .builtin →
    symbol.scope = builtinScope ∧ symbol.name ∈ language.builtinNames

private theorem builtinsOnce_initial (language : Language) : BuiltinsOnce language initial where
  recorded := rfl
  once := .nil
  registered := by simp [initial]

namespace BuiltinsOnce

variable {language : Language} {context : Context} (builtins : BuiltinsOnce language context)

include builtins

theorem apply {effect : Effect} (newBuiltins : effect.NewBuiltins language context) (number : Nat) :
    BuiltinsOnce language (context.apply language number effect) := by
  cases newBuiltins with
  | none avoids =>
    have other :
        ∀ symbol ∈ effect.declarations.map (·.toSymbol language number),
          symbol.kind ≠ .builtin := by
      intro symbol member
      obtain ⟨declaration, declared, rfl⟩ := List.mem_map.mp member
      exact fun builtin => avoids declaration declared (List.mem_singleton.mpr builtin)
    refine ⟨builtins.recorded.apply language number effect,
      List.pairwise_append.mpr ⟨builtins.once, ?_, ?_⟩, ?_⟩
    · exact List.pairwise_of_forall_mem_list fun _ _ second member builtin =>
        absurd builtin (other second member)
    · exact fun _ _ second member builtin => absurd builtin (other second member)
    · intro symbol member builtin
      rcases List.mem_append.mp member with before | here
      · exact builtins.registered symbol before builtin
      · exact absurd builtin (other symbol here)
  | one declaration only scope registered new =>
    have symbols : (context.apply language number effect).symbols =
        context.symbols ++ [declaration.toSymbol language number] := by
      rw [Context.apply, only]
      rfl
    refine ⟨builtins.recorded.apply language number effect, ?_, ?_⟩
    · rw [symbols]
      refine List.pairwise_append.mpr ⟨builtins.once, List.pairwise_singleton _ _, ?_⟩
      intro first before second here _ same
      cases List.mem_singleton.mp here
      rw [builtins.recorded] at new
      exact new (List.mem_map.mpr ⟨first, before, same⟩)
    · rw [symbols]
      intro symbol member builtin
      rcases List.mem_append.mp member with before | here
      · exact builtins.registered symbol before builtin
      · cases List.mem_singleton.mp here
        exact ⟨scope, registered⟩

theorem step (member : language ∈ [.python, .javascript]) (line : Line) :
    BuiltinsOnce language (context.step language line) := by
  refine step_preserves (BuiltinsOnce language) ?_ ?_ builtins
  · intro rule listed before found isMatch builtinsBefore
    exact (Language.reportNewBuiltins member rule listed _ before found isMatch).imp fun _ new =>
      builtinsBefore.apply new line.number
  · -- Closing a body leaves the symbols alone.
    exact fun _ after => ⟨after.recorded, after.once, after.registered⟩

end BuiltinsOnce

private theorem run_builtinsOnce {language : Language} (member : language ∈ [.python, .javascript])
    (lines : List Line) :
    BuiltinsOnce language (run language lines) :=
  run_induction (fun _ context => BuiltinsOnce language context) language
    (builtinsOnce_initial language)
    (fun _ line builtins => builtins.step member line) lines

/-!
## Never lost
-/

private theorem names_subset_tryMatch (rule : Rule) (language : Language) (number : Nat)
    (line : List Char) (context : Context) (found : Pattern.Match) :
    context.names ⊆ (rule.tryMatch language number line context found).1.names := by
  unfold Rule.tryMatch
  split
  · exact List.subset_append_left _ _
  · exact List.Subset.refl _

private theorem mem_names_tryMatch {language : Language} {number : Nat} {line : List Char}
    {rule : Rule}
    {found : Pattern.Match} {context : Context} {name : String}
    (declares : name ∉ context.names →
      ∃ effect, rule.effect? found.captures line context = some effect ∧
        ∃ declaration ∈ effect.declarations, declaration.name = name) :
    name ∈ (rule.tryMatch language number line context found).1.names := by
  by_cases known : name ∈ context.names
  · exact names_subset_tryMatch rule language number line context found known
  · obtain ⟨effect, outcome, declaration, declared, rfl⟩ := declares known
    simp only [Rule.tryMatch, outcome]
    exact List.mem_append_right _ (List.mem_map.mpr ⟨declaration, declared, rfl⟩)

end Context

theorem CallsBuiltin.registered {line : List Char} {language : Language} {name : String}
    (calls : CallsBuiltin line language name) : name ∈ language.builtinNames := by
  cases calls with
  | python _ _ registered => exact registered
  | javascript _ _ _ registered hasMethod =>
    exact List.mem_flatMap.mpr ⟨_, registered, List.mem_map.mpr ⟨_, hasMethod, rfl⟩⟩

/-- A call is a match of a check that declares the called name unless it is known. -/
theorem CallsBuiltin.check {line : List Char} {language : Language} {name : String}
    (calls : CallsBuiltin line language name) :
    ∃ rule ∈ language.rules.checks, ∃ found ∈ rule.pattern.findAll line, ∀ context : Context,
      name ∉ context.names →
      ∃ effect, rule.effect? found.captures line context = some effect ∧
        ∃ declaration ∈ effect.declarations, declaration.name = name := by
  have declares : ∀ dataType : Option (List Char), ∃ declaration ∈
      (Effect.ofDeclarations (Declaration.of? builtinScope .builtin name.toList
        dataType).toList).declarations,
        declaration.name = name := by
    intro dataType
    rw [Rules.toList_of?_builtinName calls.registered]
    exact ⟨_, List.mem_singleton_self _, rfl⟩
  cases calls with
  | python listed called registered =>
    refine ⟨_, List.mem_singleton_self _, _, listed, fun context new => ?_⟩
    exact ⟨_, Rules.Python.builtinCall_effect? called registered new line, declares _⟩
  | javascript listed calledOn called registered hasMethod =>
    refine ⟨Rules.JavaScript.builtinCall, by simp [Language.rules, Rules.JavaScript.table], _,
      listed, fun context new => ?_⟩
    exact ⟨_, Rules.JavaScript.builtinCall_effect? calledOn called registered hasMethod new line,
      declares _⟩

namespace Context

private theorem mem_names_step {language : Language} {line : Line} {name : String}
    (calls : CallsBuiltin line.text language name) (context : Context) :
    name ∈ (context.step language line).names := by
  obtain ⟨rule, check, found, listed, declares⟩ := calls.check
  have read : name ∈ (context.read language.rules language line.number line.text).names := by
    refine read_establishes (name ∈ ·.names) ?_ check listed
      (fun before => mem_names_tryMatch (declares before)) context
    intro other _ before place _ known
    exact names_subset_tryMatch other language line.number line.text before place known
  unfold step
  split
  · exact read
  · exact read

/-- The name of a call is that of a symbol no further down, though another rule may have declared
it. -/
theorem exists_symbol_of_call {language : Language} {lines : List Line}
    (increasing : lines.Pairwise fun first second => first.number < second.number) {line : Line}
    (member : line ∈ lines) {name : String} (calls : CallsBuiltin line.text language name) :
    ∃ symbol ∈ (run language lines).symbols, symbol.name = name ∧ symbol.line ≤ line.number := by
  obtain ⟨above, below, rfl⟩ := List.append_of_mem member
  have split : above ++ line :: below = (above ++ [line]) ++ below := by simp
  rw [split] at increasing ⊢
  have upTo : run language (above ++ [line]) = (run language above).step language line :=
    run_append language above [line]
  have known := mem_names_step calls (run language above)
  rw [← upTo, run_namesRecorded] at known
  obtain ⟨symbol, found, named⟩ := List.mem_map.mp known
  obtain ⟨declaring, read, sameLine⟩ := (run_foundOn language (above ++ [line])).onLine symbol found
  have early := latest_of_increasing (List.pairwise_append.mp increasing).1 declaring read
  obtain ⟨more, symbols, _⟩ := foldl_step_symbols language below (run language (above ++ [line]))
  refine ⟨symbol, ?_, named, by rw [sameLine]; exact early⟩
  rw [run_append, symbols]
  exact List.mem_append_left more found

end Context

/-- Built-in names are reported once and never lost. No symbol for a built-in name, repetitions
counted, comes after one of the same name; each has the scope of built-in names and is registered;
and every registered name that a line calls is reported on that line or above it. -/
theorem builtin_calls_reported {language : Language} (member : language ∈ [.python, .javascript])
    (source : String) :
    ((Context.run language (significantLines language source.toList)).symbols.Pairwise
      fun first second =>
        second.kind = .builtin → first.name ≠ second.name) ∧
      (∀ symbol ∈ (Context.run language (significantLines language source.toList)).symbols,
        symbol.kind = .builtin →
        symbol.scope = "builtins" ∧ symbol.name ∈ language.builtinNames) ∧
      ∀ line ∈ significantLines language source.toList, ∀ name,
        CallsBuiltin line.text language name →
        ∃ symbol ∈ scan language source, symbol.name = name ∧ symbol.line ≤ line.number := by
  have builtins := Context.run_builtinsOnce member (significantLines language source.toList)
  refine ⟨builtins.once, builtins.registered, ?_⟩
  intro line read name calls
  have increasing := pairwise_significantLines language source.toList
  obtain ⟨symbol, found, rfl, early⟩ := Context.exists_symbol_of_call increasing read calls
  obtain ⟨kept, reported, sameKey, earlier⟩ :=
    exists_mem_dedup ((Context.run_foundOn language _).ordered increasing) found
  obtain ⟨sameName, _, _⟩ := Symbol.Key.mk.inj sameKey
  exact ⟨kept, reported, sameName, Nat.le_trans earlier early⟩

/-- The inner call of a line that declares one built-in name and calls two others, of which the
outer is called again. -/
theorem nested_call_reported :
    let source := "def len(x):\nprint(len(x), max(x))\nprint(x)"
    CallsBuiltin "print(len(x), max(x))".toList .python "max" ∧
      ∃ symbol ∈ scan .python source, symbol.name = "max" ∧ symbol.line ≤ 2 := by
  have called : ∃ found ∈ Rules.Python.builtinCall.pattern.findAll "print(len(x), max(x))".toList,
      found.captures.text? .name = some "max".toList := by decide
  obtain ⟨found, listed, named⟩ := called
  have calls : CallsBuiltin "print(len(x), max(x))".toList .python "max" :=
    .python listed named (by decide)
  refine ⟨calls, ?_⟩
  exact (builtin_calls_reported (by decide) _).2.2 ⟨2, "print(len(x), max(x))".toList⟩ (by decide)
    "max" calls

end Symtab
