import Symtab.Proofs.BuiltinCalls
import Symtab.Proofs.Exhaustive
import Symtab.Proofs.NameLists

/-!
# Names of variables in Python

A keyword is no variable, whichever rule reads the line. A built-in name is none where it is
assigned to, alone or among other targets; it is one where a line gives it a type, and such a line
is read as that unless it defines something.
-/

set_option autoImplicit false

namespace Symtab

namespace Pattern

/-- Where there is a reading at the start of a line, something is found in the line. -/
theorem Reads.exists_find? {pattern : Pattern} (steady : pattern.Steady) {text rest : List Char}
    {captures kept : Captures} (reads : pattern.Reads [] text rest captures kept) :
    ∃ found, pattern.find? (text ++ rest) = some found := by
  have here : (pattern.matchAt? ⟨[], text ++ rest⟩).isSome :=
    reads.isSome_read steady (fun _ => rfl) []
  obtain ⟨found, matched⟩ := Option.isSome_iff_exists.mp here
  refine ⟨found, ?_⟩
  rw [find?]
  generalize text ++ rest = line at matched
  cases line with
  | nil => exact matched
  | cons c others => rw [findFrom?, matched, Option.orElse_some]

end Pattern

namespace Context

variable {language : Language} {symbol : Symbol}

/-- What the cascade declares on a line is not lost in the checks. -/
theorem mem_symbols_step {line : Line} {context : Context}
    (declared : symbol ∈ (context.cascaded language line.number line.text
      language.rules.cascade).symbols) :
    symbol ∈ (context.step language line).symbols := by
  have read : symbol ∈ (context.read language.rules language line.number line.text).symbols := by
    refine foldl_checked_preserves (symbol ∈ ·.symbols)
      (fun rule _ before found _ member => ?_) declared
    obtain ⟨declarations, symbols⟩ : DeclaresOn language line.number before _ :=
      declaresOn_tryMatch rule line.text before found
    rw [symbols]
    exact List.mem_append_left _ member
  unfold step
  split
  · exact read
  · exact read

/-- What a line declares in any state is declared by every run over the line. -/
theorem exists_mem_run {property : Symbol → Prop} {lines : List Line} {line : Line}
    (member : line ∈ lines)
    (declared : ∀ context : Context, ∃ symbol ∈ (context.step language line).symbols,
      property symbol) :
    ∃ symbol ∈ (run language lines).symbols, property symbol := by
  obtain ⟨above, below, rfl⟩ := List.append_of_mem member
  obtain ⟨symbol, here, holds⟩ := declared (run language above)
  obtain ⟨more, symbols, _⟩ :=
    foldl_step_symbols language below ((run language above).step language line)
  refine ⟨symbol, ?_, holds⟩
  rw [run_append, List.foldl_cons, symbols]
  exact List.mem_append_left more here

end Context

namespace Rules.Python

open Pattern

/-- The line starts with the name, a colon and the name of a type. -/
def Annotates (line name : List Char) : Prop :=
  ∃ (before after : Gap) (type : Word) (rest : List Char),
    line = name ++ (before.text ++ ':' :: (after.text ++ (type.text ++ rest)))

/-- The line defines no function and no class. -/
def DefinesNothing (line : List Char) : Prop :=
  function.pattern.find? line = none ∧ classes.pattern.find? line = none

/-!
## Lines with a type
-/

private theorem annotates_of_isMatch {line : List Char} {found : Match}
    (isMatch : typedVariable.pattern.IsMatch line found) :
    ∃ name type : Word, found.captures = [(.type, type.text), (.name, name.text)] ∧
    Annotates line name.text := by
  obtain ⟨before, _, rest, _, rfl, reads, rfl⟩ := isMatch
  have anchored : typedVariable.pattern.Anchored := trivial
  obtain rfl := reads.before_eq_nil anchored
  obtain ⟨_, value, _, rfl, ⟨_, gap, _, rfl,
    ⟨_, type, _, rfl, ⟨_, after, _, rfl,
      ⟨_, _, _, rfl, ⟨_, space, _, rfl, ⟨_, name, _, rfl, ⟨⟨rfl, _⟩, rfl⟩, ⟨_, readName, rfl⟩⟩,
        ⟨blankSpace, rfl⟩⟩, ⟨rfl, rfl⟩⟩, ⟨blankAfter, rfl⟩⟩, ⟨_, readType, rfl⟩⟩, ⟨_, rfl⟩⟩,
        readValue⟩ := reads
  obtain ⟨nonempty, isWord, rfl⟩ := readName.of_many1
  obtain ⟨nonemptyType, isWordType, rfl⟩ := readType.of_many1
  refine ⟨⟨name, nonempty, isWord⟩, ⟨type, nonemptyType, isWordType⟩, ?_, ?_⟩
  · -- Of the value nothing is kept.
    rcases readValue with ⟨_, _, _, _, ⟨_, _, _, _, ⟨_, rfl⟩, ⟨_, rfl⟩⟩, readRest⟩ | ⟨_, rfl⟩
    · exact readRest.of_many1.2.2
    · rfl
  · exact ⟨⟨space, blankSpace⟩, ⟨after, blankAfter⟩, ⟨type, nonemptyType, isWordType⟩,
      gap ++ (value ++ rest), by simp⟩

/-- The name ends where white space or the colon comes. -/
theorem Annotates.exists_edge {line name : List Char} (annotates : Annotates line name) :
    ∃ c rest, line = name ++ c :: rest ∧ Text.isWord c = false ∧ c ≠ '.' := by
  obtain ⟨before, after, type, rest, rfl⟩ := annotates
  cases spelled : before.text with
  | nil => exact ⟨':', _, rfl, by decide⟩
  | cons c blanks =>
    have blank : Text.isBlank c = true := before.blank c (by rw [spelled]; exact List.mem_cons_self)
    refine ⟨c, _, rfl, Text.isWord_eq_false_of_isBlank blank, ?_⟩
    rintro rfl
    exact absurd blank (by decide)

/-- A line gives a type to one name only. -/
theorem Annotates.name_eq {line : List Char} {first second : Word}
    (annotates : Annotates line first.text) (again : Annotates line second.text) :
    first.text = second.text := by
  obtain ⟨c, rest, split, edge, -⟩ := annotates.exists_edge
  obtain ⟨d, others, splitAgain, edgeAgain, -⟩ := again.exists_edge
  exact eq_of_wordRuns (split.symm.trans splitAgain) first.isWord second.isWord edge edgeAgain

theorem Annotates.selfProperty_find?_eq_none {line : List Char} {name : Word}
    (annotates : Annotates line name.text) :
    selfProperty.pattern.find? line = none := by
  obtain ⟨c, rest, rfl, edge, notDot⟩ := annotates.exists_edge
  have anchored : selfProperty.pattern.Anchored := trivial
  have stops : "self.".toList.all Text.isWord = false := by decide
  have first : "self.".toList.find? (!Text.isWord ·) = some '.' := by decide
  refine anchored.find?_eq_none (name.blocked_of_break ?_ edge ?_ [] rest)
  · simp only [selfProperty, passes_append, passes_text, stops]
    simp
  · simp only [selfProperty, meets_append, passes_append, passes_text, meets_text, stops, first]
    simp [notDot.symm]

theorem Annotates.typedVariable_finds {line : List Char} {name : Word}
    (annotates : Annotates line name.text) :
    ∃ type : Word, typedVariable.pattern.Finds line [(.type, type.text), (.name, name.text)] := by
  have found : ∃ found, typedVariable.pattern.find? line = some found := by
    obtain ⟨before, after, type, rest, rfl⟩ := annotates
    have reads :
        typedVariable.pattern.Reads []
          (name.text ++ before.text ++ [':'] ++ after.text ++ type.text) rest []
        [(.type, type.text), (.name, name.text)] := by
      have readName :
          word.Reads [] name.text
            (before.text ++ ([':'] ++ (after.text ++ (type.text ++ ([] ++ ([] ++ rest)))))) [] [] :=
        reads_many1 name.nonempty name.isWord _ _ _
      have readType :
          word.Reads (name.text ++ before.text ++ [':'] ++ after.text).reverse type.text rest
            [(.name, name.text)]
          [(.name, name.text)] := reads_many1 type.nonempty type.isWord _ _ _
      refine ⟨_, [], _, (List.append_nil _).symm,
        ⟨_, [], _, (List.append_nil _).symm,
          ⟨_, _, _, rfl,
            ⟨_, _, _, rfl,
              ⟨_, _, _, rfl, ⟨_, _, _, rfl, ⟨[], _, _, rfl, ⟨⟨rfl, rfl⟩, rfl⟩, ⟨_, readName, rfl⟩⟩,
                ⟨before.blank, rfl⟩⟩, ⟨rfl, rfl⟩⟩, ⟨after.blank, rfl⟩⟩, ⟨_, ?_, rfl⟩⟩,
                ⟨List.forall_mem_nil _, rfl⟩⟩, .inr ⟨rfl, rfl⟩⟩
      simpa using readType
    have steady : typedVariable.pattern.Steady := by simp [typedVariable, word, many1]
    simpa using reads.exists_find? steady
  obtain ⟨found, matched⟩ := found
  obtain ⟨other, type, kept, again⟩ := annotates_of_isMatch (isMatch_of_find? matched)
  rw [again.name_eq annotates] at kept
  exact ⟨type, found, matched, kept⟩

/-!
## Rules
-/

/-- A name that a line may declare as a variable: no keyword, and a built-in name only with its
type. -/
def Allows (line : List Char) (name : String) : Prop :=
  name ∉ Builtin.pythonKeywords ∧ (name ∈ Builtin.pythonNames → Annotates line name.toList)

/-- The variables that an effect declares are names that the line allows. -/
def DeclaresAllowed (line : List Char) (effect : Effect) : Prop :=
  ∀ declaration ∈ effect.declarations, declaration.kind = .variable → Allows line declaration.name

private theorem declaresAllowed_of_avoids (line : List Char) {effect : Effect}
    (avoids : effect.Avoids [.variable]) :
    DeclaresAllowed line effect :=
  fun declaration declared kind =>
    absurd (List.mem_singleton.mpr kind) (avoids declaration declared)

private theorem not_mem_pythonKeywords {name : List Char} (other : isKeyword name = false) :
    String.ofList name ∉ Builtin.pythonKeywords := by
  simpa [isKeyword, Builtin.isPythonKeyword] using other

private theorem function_avoids : function.Avoids [.variable] := by
  intro captures line context
  have other :
      (if context.scopes.currentKind = .classType then Kind.method else .function) ∉
        [Kind.variable] := by
    split
    · decide
    · decide
  exact .bind fun _ => .some (Effect.avoids_opening (Declaration.avoids_of? other _ _ _ _) _)

private theorem classes_avoids : classes.Avoids [.variable] :=
  fun _ _ _ => .bind fun _ => .some
    (Effect.avoids_opening (Declaration.avoids_of? (by decide) _ _ _ _) _)

private theorem builtinCall_avoids : builtinCall.Avoids [.variable] :=
  fun _ _ _ => .bind fun _ => .ite .none
    (.some (Effect.avoids_ofDeclarations (Declaration.avoids_of? (by decide) _ _ _ _)))

private theorem typedVariable_declaresAllowed {line : List Char} {found : Match}
    (isMatch : typedVariable.pattern.IsMatch line found) (context : Context) :
    Yields (DeclaresAllowed line) (typedVariable.effect? found.captures line context) := by
  obtain ⟨name, type, kept, annotates⟩ := annotates_of_isMatch isMatch
  rw [kept]
  change Yields _ (if isKeyword name.text then none else some _)
  split
  · exact .none
  · next other =>
    refine .some fun declaration declared _ => ?_
    rw [name.declaration_of?] at declared
    obtain rfl := List.mem_singleton.mp declared
    refine ⟨not_mem_pythonKeywords (Bool.eq_false_iff.mpr other), fun _ => ?_⟩
    simpa [Word.name] using annotates

/-- The targets of an assignment are words, so that what is looked up is what is declared. -/
theorem exists_word_of_target {line : List Char} {found : Match}
    (isMatch : plainVariables.pattern.IsMatch line found) {targets : List Char}
    (kept : found.captures.text? .names = some targets) {target : List Char}
    (member : target ∈ commaSeparated targets) : ∃ name : Word, target = name.text := by
  have listed :
      ∃ (first : Word) (others : List FurtherName),
        targets = first.text ++ others.flatMap FurtherName.text := by
    have keeps : plainVariables.pattern.Keeps .names fun targets =>
        ∃ (first : Word) (others : List FurtherName),
          targets = first.text ++ others.flatMap FurtherName.text := by
      have named : ∀ before text rest captures kept, names.Reads before text rest captures kept →
          ∃ (first : Word) (others : List FurtherName),
            text = first.text ++ others.flatMap FurtherName.text :=
        fun _ _ _ _ _ reads => exists_names_of_reads reads
      simp only [plainVariables, assigned, keeps_append, keeps_orElse]
      exact ⟨⟨⟨trivial, fun _ => named, by simp⟩, by simp⟩, by simp⟩
    exact isMatch.keeps keeps kept
  obtain ⟨first, others, rfl⟩ := listed
  have pieces := commaSeparated_names ⟨[], List.forall_mem_nil _⟩ first others
  rw [List.nil_append] at pieces
  rw [pieces] at member
  rcases List.mem_cons.mp member with rfl | further
  · exact ⟨first, rfl⟩
  · obtain ⟨name, _, rfl⟩ := List.mem_map.mp further
    exact ⟨name.name, rfl⟩

private theorem plainVariables_declaresAllowed {line : List Char} {found : Match}
    (isMatch : plainVariables.pattern.IsMatch line found) (context : Context) :
    Yields (DeclaresAllowed line) (plainVariables.effect? found.captures line context) := by
  refine .bindKept fun targets kept => ?_
  dsimp only
  split
  · exact .none
  · next noKeyword =>
    refine .some fun declaration declared _ => ?_
    obtain ⟨target, chosen, declares⟩ := List.mem_filterMap.mp declared
    obtain ⟨listed, notBuiltin⟩ := List.mem_filter.mp chosen
    obtain ⟨name, rfl⟩ := exists_word_of_target isMatch kept listed
    rw [name.declaration_of?] at declares
    obtain rfl := Option.some.inj declares
    have other : isKeyword name.text = false := by
      rw [List.any_eq_true, not_exists] at noKeyword
      exact Bool.eq_false_iff.mpr fun keyword => noKeyword _ ⟨listed, keyword⟩
    refine ⟨not_mem_pythonKeywords other, fun builtin => ?_⟩
    have known : isBuiltin name.text = true := by
      simpa [isBuiltin, Builtin.isPythonName, Word.name] using builtin
    rw [known] at notBuiltin
    cases notBuiltin

private theorem declaresAllowed {line : List Char} :
    ∀ rule ∈ table.cascade ++ table.checks, ∀ (context : Context) (found : Match),
    rule.pattern.IsMatch line found →
    Yields (DeclaresAllowed line) (rule.effect? found.captures line context) := by
  have avoiding {rule : Rule} (avoids : rule.Avoids [.variable]) (context : Context) (found : Match)
      (_ : rule.pattern.IsMatch line found) : Yields (DeclaresAllowed line)
        (rule.effect? found.captures line context) :=
    (avoids found.captures line context).imp fun _ => declaresAllowed_of_avoids line
  simp only [table, List.cons_append, List.nil_append, List.forall_mem_cons]
  refine ⟨avoiding function_avoids, avoiding classes_avoids, avoiding ?selfProperty,
    fun context _ isMatch => typedVariable_declaresAllowed isMatch context,
    fun context _ isMatch => plainVariables_declaresAllowed isMatch context, avoiding ?imports,
      avoiding builtinCall_avoids, by simp⟩
  all_goals intro captures line context
  case selfProperty =>
    exact .bind fun _ => .ite .none
      (.some (Effect.avoids_ofDeclarations (Declaration.avoids_of? (by decide) _ _ _ _)))
  case imports =>
    exact .some (Effect.avoids_ofDeclarations (Declaration.avoids_filterMap (by decide) _ _ _ _))
/-!
## One line
-/

private theorem function_claims {line : List Char} {found : Match}
    (isMatch : function.pattern.IsMatch line found) (context : Context) :
    ∃ effect, function.effect? found.captures line context = some effect ∧
    effect.claims = true := by
  obtain ⟨_, _, _, _, _, ⟨_, _, _, _, ⟨_, _, _, _, ⟨_, _, _, _, _, ⟨_, _, rfl⟩⟩, ⟨_, rfl⟩⟩,
    ⟨_, rfl⟩⟩, rfl⟩ := isMatch
  exact ⟨_, rfl, rfl⟩

private theorem classes_claims {line : List Char} {found : Match}
    (isMatch : classes.pattern.IsMatch line found) (context : Context) :
    ∃ effect, classes.effect? found.captures line context = some effect ∧ effect.claims = true := by
  obtain ⟨_, _, _, _, _, ⟨_, _, _, _, _, ⟨_, _, rfl⟩⟩, rfl⟩ := isMatch
  exact ⟨_, rfl, rfl⟩

/-- A line that defines something is claimed by the rule for that, and declares no variable. -/
theorem cascaded_of_definition {line : List Char} (defines : ¬DefinesNothing line)
    (context : Context) (number : Nat) :
    ∃ effect : Effect, effect.Avoids [.variable] ∧
      context.cascaded .python number line table.cascade = context.apply .python number effect := by
  cases matched : function.pattern.find? line with
  | some found =>
    obtain ⟨effect, outcome, claims⟩ := function_claims (isMatch_of_find? matched) context
    refine ⟨effect, function_avoids _ _ _ effect outcome, ?_⟩
    exact Context.cascaded_of_claims (List.forall_mem_nil _) ⟨found, matched, rfl⟩ outcome claims
  | none =>
    obtain ⟨found, matchedClass⟩ :=
      Option.ne_none_iff_exists'.mp fun none => defines ⟨matched, none⟩
    obtain ⟨effect, outcome, claims⟩ := classes_claims (isMatch_of_find? matchedClass) context
    refine ⟨effect, classes_avoids _ _ _ effect outcome, ?_⟩
    have passed :
        ∀ rule ∈ [function], rule.tryLine .python number line context = (context, false) :=
      List.forall_mem_singleton.mpr (Context.tryLine_of_find?_eq_none matched)
    exact Context.cascaded_of_claims passed ⟨found, matchedClass, rfl⟩ outcome claims

/-- The variables of one state are those of another and names that the line declares as such. -/
def AddsAllowed (line : List Char) (before after : Context) : Prop :=
  ∀ symbol ∈ after.symbols, symbol.kind = .variable →
    symbol ∈ before.symbols ∨ Allows line symbol.name ∧ DefinesNothing line

private theorem addsAllowed_refl (line : List Char) (context : Context) :
    AddsAllowed line context context :=
  fun _ member _ => .inl member

theorem AddsAllowed.apply {line : List Char} {before after : Context}
    (adds : AddsAllowed line before after) {effect : Effect} (number : Nat)
    (declares : effect.Avoids [.variable] ∨ DeclaresAllowed line effect ∧ DefinesNothing line) :
    AddsAllowed line before (after.apply .python number effect) := by
  intro symbol member kind
  rcases List.mem_append.mp member with earlier | here
  · exact adds symbol earlier kind
  · obtain ⟨declaration, declared, rfl⟩ := List.mem_map.mp here
    rcases declares with avoids | ⟨allowed, nothing⟩
    · exact absurd (List.mem_singleton.mpr kind) (avoids declaration declared)
    · exact .inr ⟨allowed declaration declared kind, nothing⟩

theorem AddsAllowed.tryMatch {line : List Char} {before after : Context}
    (adds : AddsAllowed line before after) {rule : Rule} (avoids : rule.Avoids [.variable])
    (number : Nat) (found : Match) :
    AddsAllowed line before (rule.tryMatch .python number line after found).1 := by
  unfold Rule.tryMatch
  split
  · next effect outcome => exact adds.apply number (.inl (avoids _ _ _ effect outcome))
  · exact adds

private theorem addsAllowed_step (context : Context) (line : Line) :
    AddsAllowed line.text context (context.step .python line) := by
  by_cases nothing : DefinesNothing line.text
  · refine Context.step_preserves (AddsAllowed line.text context)
      (fun rule member before found isMatch adds => ?_)
      (fun _ adds => adds) (addsAllowed_refl _ _)
    exact (declaresAllowed rule member before found isMatch).imp fun _ allowed =>
      adds.apply line.number (.inr ⟨allowed, nothing⟩)
  · obtain ⟨effect, avoids, same⟩ := cascaded_of_definition nothing context line.number
    have cascaded :
        AddsAllowed line.text context
          (context.cascaded .python line.number line.text table.cascade) := by
      rw [same]
      exact (addsAllowed_refl _ _).apply line.number (.inl avoids)
    have read : AddsAllowed line.text context (context.read table .python line.number line.text) :=
      Context.foldl_checked_preserves _ (List.forall_mem_singleton.mpr fun _ found _ adds =>
        adds.tryMatch builtinCall_avoids line.number found) cascaded
    unfold Context.step
    split
    · exact read
    · exact read

/-- A line that gives a built-in name its type declares it, unless the line defines something. -/
theorem step_annotated {line : Line} (name : Word) (builtin : name.name ∈ Builtin.pythonNames)
    (annotates : Annotates line.text name.text) (nothing : DefinesNothing line.text)
    (context : Context) :
    ∃ symbol ∈ (context.step .python line).symbols, symbol.kind = .variable ∧
    symbol.name = name.name := by
  obtain ⟨type, finds⟩ := annotates.typedVariable_finds
  have notKeyword : isKeyword name.text = false := by
    have apart : ∀ name ∈ Builtin.pythonNames, name ∉ Builtin.pythonKeywords := by decide +kernel
    simpa [isKeyword, Builtin.isPythonKeyword, Word.name] using apart name.name builtin
  have passed : ∀ rule ∈ [function, classes, selfProperty],
      rule.tryLine .python line.number line.text context = (context, false) := by
    simp only [List.forall_mem_cons]
    refine ⟨Context.tryLine_of_find?_eq_none nothing.1, Context.tryLine_of_find?_eq_none nothing.2,
      Context.tryLine_of_find?_eq_none annotates.selfProperty_find?_eq_none, List.forall_mem_nil _⟩
  have outcome : typedVariable.effect? [(.type, type.text), (.name, name.text)] line.text context =
      some { declarations := [⟨name.name, .variable, context.scopes.current, some type.name,
        none⟩] } := by
    change (if isKeyword name.text then none else some _) = _
    rw [notKeyword, name.declaration_of?]
    simp [type.cleanName?_text]
  have cascaded : context.cascaded .python line.number line.text table.cascade = _ :=
    Context.cascaded_of_claims passed finds outcome rfl
  refine ⟨Declaration.toSymbol ⟨name.name, .variable, context.scopes.current, some type.name, none⟩
    .python line.number, Context.mem_symbols_step ?_, rfl, rfl⟩
  change _ ∈ (context.cascaded .python line.number line.text table.cascade).symbols
  rw [cascaded]
  exact List.mem_append_right _ (List.mem_singleton_self _)

/-!
## All lines
-/

/-- A line gives the name its type and defines nothing. -/
def AnnotatedOn (lines : List Line) (name : String) : Prop :=
  ∃ line ∈ lines, Annotates line.text name.toList ∧ DefinesNothing line.text

/-- Every variable found so far has a name that one of the lines allows. -/
def VariablesAllowed (lines : List Line) (context : Context) : Prop :=
  ∀ symbol ∈ context.symbols, symbol.kind = .variable →
    symbol.name ∉ Builtin.pythonKeywords ∧
      (symbol.name ∈ Builtin.pythonNames → AnnotatedOn lines symbol.name)

private theorem run_variablesAllowed (lines : List Line) :
    VariablesAllowed lines (Context.run .python lines) := by
  refine Context.run_induction VariablesAllowed .python (fun _ member => nomatch member)
    (fun lines line allowed => ?_) lines
  intro symbol member kind
  rcases addsAllowed_step _ line symbol member
    kind with earlier | ⟨⟨notKeyword, annotated⟩, nothing⟩
  · obtain ⟨notKeyword, annotated⟩ := allowed symbol earlier kind
    refine ⟨notKeyword, fun builtin => ?_⟩
    obtain ⟨other, above, annotates⟩ := annotated builtin
    exact ⟨other, List.mem_append_left _ above, annotates⟩
  · exact ⟨notKeyword, fun builtin => ⟨line, by simp, annotated builtin, nothing⟩⟩

/-- No variable is reported under the name of a keyword. One is reported under a built-in name
exactly where a line gives that name its type and defines neither a function nor a class; assigning
to a built-in name does not make it a variable. -/
theorem builtin_variable_iff_annotated (source : String) :
    (∀ symbol ∈ scan .python source, symbol.kind = .variable →
      symbol.name ∉ Builtin.pythonKeywords) ∧
      ∀ name ∈ Builtin.pythonNames,
        (∃ symbol ∈ scan .python source, symbol.kind = .variable ∧ symbol.name = name) ↔
        AnnotatedOn (significantLines .python source.toList) name := by
  have allowed := run_variablesAllowed (significantLines .python source.toList)
  have found :
      ∀ symbol ∈ scan .python source,
        symbol ∈ (Context.run .python (significantLines .python source.toList)).symbols :=
    fun symbol member => (dedup_sublist _).subset member
  refine ⟨fun symbol member kind => (allowed symbol (found symbol member) kind).1,
    fun name builtin => ⟨?_, ?_⟩⟩
  · rintro ⟨symbol, member, kind, rfl⟩
    exact (allowed symbol (found symbol member) kind).2 builtin
  · rintro ⟨line, member, annotates, nothing⟩
    have isWord :
        ∀ name ∈ Builtin.pythonNames, name.toList ≠ [] ∧
        ∀ c ∈ name.toList, Text.isWord c = true := by decide +kernel
    let word : Word := ⟨name.toList, (isWord name builtin).1, (isWord name builtin).2⟩
    have named : word.name = name := String.ofList_toList
    obtain ⟨symbol, declared, kind, same⟩ := Context.exists_mem_run member
      (step_annotated word (by rw [named]; exact builtin) annotates nothing)
    have increasing := pairwise_significantLines .python source.toList
    obtain ⟨kept, reported, sameKey, _⟩ :=
      exists_mem_dedup ((Context.run_foundOn .python _).ordered increasing) declared
    obtain ⟨sameName, _, sameKind⟩ := Symbol.Key.mk.inj sameKey
    exact ⟨kept, reported, sameKind.trans kind, (sameName.trans same).trans named⟩

/-- Of two built-in names the one with a type is reported. -/
theorem builtin_with_type_reported :
    let source := "list: int = 0\nlen = 1"
    "list" ∈ Builtin.pythonNames ∧ ∃ symbol ∈ scan .python source, symbol.kind = .variable ∧
      symbol.name = "list" := by
  have annotates : Annotates "list: int = 0".toList "list".toList :=
    ⟨⟨[], by decide⟩, ⟨[' '], by decide⟩, ⟨"int".toList, by decide, by decide⟩,
      " = 0".toList, by decide⟩
  have line :
      (⟨1, "list: int = 0".toList⟩ : Line) ∈
        significantLines .python "list: int = 0\nlen = 1".toList := by decide
  have nothing : DefinesNothing "list: int = 0".toList := by
    constructor
    · decide
    · decide
  exact ⟨by decide, ((builtin_variable_iff_annotated _).2 "list" (by decide)).mpr
    ⟨_, line, annotates, nothing⟩⟩

/-- A built-in name that is given a type is reported as a variable, though no other assignment makes
it one. -/
theorem builtin_reported_as_variable :
    ¬∀ symbol ∈ scan .python "list: int = 0", symbol.kind = .variable →
      symbol.name ∉ Builtin.pythonKeywords ∧ symbol.name ∉ Builtin.pythonNames := by
  decide

end Rules.Python

end Symtab
