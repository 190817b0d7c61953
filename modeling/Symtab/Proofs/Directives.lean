import Symtab.Proofs.BracePlacement
import Symtab.Proofs.LineForms

/-!
# Preprocessor lines

In C and C++ a line that starts with `#` is a comment to the filter unless `define` comes next, and
of those that it lets through only the rule for macros reads any. A line of the form of a definition
therefore declares its macro, whatever the state, and every other preprocessor line leaves a scan
alone, such as `#defined X`, which the filter takes for a definition and the rule does not.
-/

set_option autoImplicit false

namespace Symtab

/-- The line is `#`, `define` and a name, with white space between them where it may or has to
stand. The name goes as far as its word characters do. -/
inductive DefinesMacro : List Char → List Char → Prop where
  | intro (gap space name rest : List Char) (gapBlank : ∀ c ∈ gap, Text.isBlank c = true)
      (spaced : space ≠ [])
      (spaceBlank : ∀ c ∈ space, Text.isBlank c = true) (named : name ≠ [])
        (isWord : ∀ c ∈ name, Text.isWord c = true)
      (ends : ∀ c ∈ rest.head?, Text.isWord c = false) :
      DefinesMacro ('#' :: (gap ++ ("define".toList ++ (space ++ (name ++ rest))))) name

/-- Where some word character follows, the longest run from there is the name. -/
theorem definesMacro_takeWhile {gap space name : List Char}
    (gapBlank : ∀ c ∈ gap, Text.isBlank c = true) (spaced : space ≠ [])
    (spaceBlank : ∀ c ∈ space, Text.isBlank c = true) (named : name ≠ [])
    (isWord : ∀ c ∈ name, Text.isWord c = true) (rest : List Char) :
    DefinesMacro ('#' :: (gap ++ ("define".toList ++ (space ++ (name ++ rest)))))
      (name ++ rest.takeWhile Text.isWord) := by
  have split :
      name ++ rest = (name ++ rest.takeWhile Text.isWord) ++ rest.dropWhile Text.isWord := by
    rw [List.append_assoc, List.takeWhile_append_dropWhile]
  rw [split]
  refine .intro gap space _ _ gapBlank spaced spaceBlank (by simp [named]) ?_ ?_
  · exact List.forall_mem_append.mpr ⟨isWord, fun c member => List.mem_takeWhile_imp member⟩
  · intro c first
    have beyond := List.head?_dropWhile_not Text.isWord rest
    rw [first] at beyond
    exact beyond

/-!
## The filter and the rule
-/

theorem DefinesMacro.head?_eq {line name : List Char} (defines : DefinesMacro line name) :
    line.head? = some '#' := by
  cases defines
  rfl

theorem DefinesMacro.passesFilter {line name : List Char} (defines : DefinesMacro line name) :
    CommentMarker.definesMacro line = true := by
  cases defines with
  | intro gap space _ rest gapBlank =>
    have dropped : (gap ++ ("define".toList ++ (space ++ (name ++ rest)))).dropWhile Text.isBlank =
        "define".toList ++ (space ++ (name ++ rest)) := by
      rw [List.dropWhile_append_of_pos gapBlank]
      rfl
    rw [CommentMarker.definesMacro, List.tail_cons, dropped, List.isPrefixOf_iff_prefix]
    exact List.prefix_append _ _

namespace Rules

open Pattern

private theorem macroDefinition_finds {line name : List Char} (defines : DefinesMacro line name) :
    macroDefinition.pattern.Finds line [(.name, name)] := by
  cases defines with
  | intro gap space _ rest gapBlank spaced spaceBlank named isWord ends =>
    have notBlank : ∀ c ∈ (name ++ rest).head?, Text.isBlank c = false := by
      intro c first
      rw [List.head?_append_of_ne_nil _ named] at first
      exact Text.isBlank_eq_false_of_isWord (isWord c (List.mem_of_head? first))
    have hash :=
      (takes_lineStart ('#' :: (gap ++ ("define".toList ++ (space ++ (name ++ rest))))) []).append
      (takes_literal ['#'] [] _ [])
    have letter :
        ∀ c ∈ ("define".toList ++ (space ++ (name ++ rest))).head?, Text.isBlank c = false :=
      stops_before (c := 'd') (by decide) _
    have keyword :=
      (hash.append (takes_many gapBlank letter _ _)).append (takes_literal "define".toList _ _ [])
    have gapAfter := keyword.append (takes_many1 spaced spaceBlank notBlank _ _)
    exact (gapAfter.append ((takes_many1 named isWord ends _ _).capture .name)).finds

/-- Whatever the rule for macros reads is a definition. -/
theorem exists_definesMacro_of_isMatch {line : List Char} {found : Match}
    (isMatch : macroDefinition.pattern.IsMatch line found) :
    ∃ name, DefinesMacro line name := by
  obtain ⟨before, text, rest, kept, rfl, reads, _⟩ := isMatch
  obtain ⟨_, name, _, rfl, ⟨_, space, _, rfl,
    ⟨_, keyword, _, rfl, ⟨_, gap, _, rfl, ⟨start, hash, _, rfl, startReads, hashReads⟩, gapReads⟩,
      keywordReads⟩, spaceReads⟩, nameReads⟩ := reads
  obtain ⟨⟨rfl, rfl⟩, _⟩ := startReads
  obtain ⟨rfl, _⟩ := hashReads
  obtain ⟨rfl, _⟩ := keywordReads
  obtain ⟨gapBlank, _⟩ := gapReads
  obtain ⟨spaced, spaceBlank, _⟩ := spaceReads.of_many1
  obtain ⟨_, wordReads, _⟩ := nameReads
  obtain ⟨named, isWord, _⟩ := wordReads.of_many1
  have defines := definesMacro_takeWhile gapBlank spaced spaceBlank named isWord rest
  exact ⟨_, by simpa using defines⟩

section Unmatched

private theorem find?_hash (rule : Rule) (anchored : rule.pattern.Anchored)
    (stuck : ¬rule.pattern.Passes fun _ => false) (unmet : ¬rule.pattern.Meets (fun _ => false) '#')
    (rest : List Char) : rule.pattern.find? ('#' :: rest) = none :=
  anchored.find?_eq_none (blocked_of_next stuck unmet [] rest)

private theorem isWord_hash : Text.isWord '#' = false := by decide

private theorem isAsciiNameStart_hash : isAsciiNameStart '#' = false := by decide

variable (rest : List Char)

theorem C.find?_directive :
    ∀ rule ∈ C.table.cascade.tail, rule.pattern.find? ('#' :: rest) = none := by
  simp only [C.table, List.tail_cons, List.forall_mem_cons]
  refine ⟨?function, ?typeDefinition, ?typeDefinitionEnd, ?structures, ?plainVariables, by simp⟩
  case function =>
    exact find?_hash C.function trivial (by simp [C.function, repeated1])
      (by simp [C.function, repeated1, isAsciiNameStart_hash]) rest
  case typeDefinition =>
    exact find?_hash C.typeDefinition trivial (by simp [C.typeDefinition])
      (by simp [C.typeDefinition]) rest
  case typeDefinitionEnd =>
    exact find?_hash C.typeDefinitionEnd trivial (by simp [C.typeDefinitionEnd])
      (by simp [C.typeDefinitionEnd]) rest
  case structures =>
    exact find?_hash C.structures trivial (by simp [C.structures])
      (by simp [C.structures, anyText]) rest
  case plainVariables =>
    exact find?_hash C.plainVariables trivial (by simp [C.plainVariables])
      (by simp [C.plainVariables, C.qualifiers, anyText, word, isWord_hash]) rest

theorem Cpp.find?_directive :
    ∀ rule ∈ Cpp.table.cascade.tail, rule.pattern.find? ('#' :: rest) = none := by
  simp only [Cpp.table, List.tail_cons, List.forall_mem_cons]
  refine ⟨?namespaces, ?classes, ?constructors, ?function, ?plainVariables, by simp⟩
  case namespaces =>
    exact find?_hash Cpp.namespaces trivial (by simp [Cpp.namespaces])
      (by simp [Cpp.namespaces]) rest
  case classes =>
    exact find?_hash Cpp.classes trivial (by simp [Cpp.classes])
      (by simp [Cpp.classes, Cpp.templateHead, anyText]) rest
  case constructors =>
    exact find?_hash Cpp.constructors trivial (by simp [Cpp.constructors])
      (by simp [Cpp.constructors, Cpp.qualification, Cpp.memberName, word, isWord_hash]) rest
  case function =>
    exact find?_hash Cpp.function trivial (by simp [Cpp.function, repeated1])
      (by simp [Cpp.function, Cpp.templateHead, repeated1, isAsciiNameStart_hash]) rest
  case plainVariables =>
    exact find?_hash Cpp.plainVariables trivial (by simp [Cpp.plainVariables])
      (by simp [Cpp.plainVariables, Cpp.qualifiers, anyText, wordOr, isWord_hash]) rest

end Unmatched

private theorem macroDefinition_effect? {name : List Char} (named : name ≠ [])
    (isWord : ∀ c ∈ name, Text.isWord c = true) (line : List Char) (context : Context) :
    macroDefinition.effect? [(.name, name)] line context = some (Effect.ofDeclarations
      [{ name := String.ofList name, kind := .constant, scope := context.scopes.current
         description := some "Preprocessor macro" }]) := by
  have kept : Captures.text? [(.name, name)] .name = some name := rfl
  simp only [macroDefinition, kept, Option.bind_eq_bind, Option.bind_some, Declaration.of?,
    cleanName?_word named isWord]
  rfl

end Rules

/-!
## Lines
-/

section Lines

variable {language : Language} (preprocessed : language ∈ [.c, .cpp])

include preprocessed

private theorem isSignificant_directive (rest : List Char) :
    language.isSignificant ('#' :: rest) = CommentMarker.definesMacro ('#' :: rest) := by
  simp only [List.mem_cons, List.not_mem_nil, or_false] at preprocessed
  rcases preprocessed with rfl | rfl
  · simp [Language.isSignificant, Language.isComment, Language.commentMarkers, CommentMarker.marks,
      List.isPrefixOf]
  · simp [Language.isSignificant, Language.isComment, Language.commentMarkers, CommentMarker.marks,
      List.isPrefixOf]

private theorem rules_directive :
    ∃ others, language.rules.cascade = Rules.macroDefinition :: others ∧
    language.rules.checks = [] ∧
    ∀ rest, ∀ rule ∈ others, rule.pattern.find? ('#' :: rest) = none := by
  simp only [List.mem_cons, List.not_mem_nil, or_false] at preprocessed
  rcases preprocessed with rfl | rfl
  · exact ⟨_, rfl, rfl, Rules.C.find?_directive⟩
  · exact ⟨_, rfl, rfl, Rules.Cpp.find?_directive⟩

namespace Context

private theorem stepOver_of_definesMacro {line name : List Char} (defines : DefinesMacro line name)
    (number : Nat) (context : Context) :
    context.stepOver language ⟨number, line⟩ = context.adding
      [{ name := String.ofList name, kind := .constant, scope := context.scopes.current, line := number, language
         description := some "Preprocessor macro" }] := by
  obtain ⟨others, cascade, checks, _⟩ := rules_directive preprocessed
  have finds := Rules.macroDefinition_finds defines
  have passes := defines.passesFilter
  cases defines with
  | intro _ _ _ _ _ _ _ named isWord _ =>
    have read : context.read language.rules language number _ = _ :=
      read_of_passed [] Rules.macroDefinition others cascade (by simp) (by simp [checks]) finds
        (Rules.macroDefinition_effect? named isWord _ context) rfl
    rw [stepOver, isSignificant_directive preprocessed, passes, if_pos rfl, step, read]
    rfl

/-- A line that the filter lets through is read by no rule unless it is a definition. -/
theorem stepOver_of_not_definesMacro {rest : List Char}
    (undefined : ∀ name, ¬DefinesMacro ('#' :: rest) name) (number : Nat) (context : Context) :
    context.stepOver language ⟨number, '#' :: rest⟩ = context := by
  obtain ⟨others, cascade, checks, unmatched⟩ := rules_directive preprocessed
  have noMacro : Rules.macroDefinition.pattern.find? ('#' :: rest) = none := by
    cases matched : Rules.macroDefinition.pattern.find? ('#' :: rest) with
    | none => rfl
    | some found =>
      obtain ⟨name, defines⟩ :=
        Rules.exists_definesMacro_of_isMatch (Pattern.isMatch_of_find? matched)
      exact absurd defines (undefined name)
  have noRule :
      ∀ rule ∈ language.rules.cascade ++ language.rules.checks,
        rule.pattern.find? ('#' :: rest) = none := by
    rw [cascade, checks, List.append_nil]
    exact List.forall_mem_cons.mpr ⟨noMacro, unmatched rest⟩
  unfold stepOver
  split
  · rw [step, read_of_find?_eq_none noRule]
    rfl
  · rfl

end Context

end Lines

/-- In C and C++, whatever the state, a line that starts with `#` adds the constant that it defines,
named by all the word characters that follow `define` and some white space. If there are none, the
line adds nothing. The open bodies stay as they are. -/
theorem directive_line_read {language : Language} (preprocessed : language ∈ [.c, .cpp])
    (context : Context) (number : Nat) (rest : List Char) :
    (∀ name, DefinesMacro ('#' :: rest) name →
      context.stepOver language ⟨number, '#' :: rest⟩ = context.adding
        [{ name := String.ofList name, kind := .constant, scope := context.scopes.current, line := number, language
           description := some "Preprocessor macro" }]) ∧
      ((∀ name, ¬DefinesMacro ('#' :: rest) name) →
        context.stepOver language ⟨number, '#' :: rest⟩ = context) ∧
      (context.stepOver language ⟨number, '#' :: rest⟩).scopes = context.scopes := by
  refine ⟨fun name defines => Context.stepOver_of_definesMacro preprocessed defines number context,
    fun undefined => Context.stepOver_of_not_definesMacro preprocessed undefined number context, ?_⟩
  by_cases defines : ∃ name, DefinesMacro ('#' :: rest) name
  · obtain ⟨name, defines⟩ := defines
    rw [Context.stepOver_of_definesMacro preprocessed defines number context]
    rfl
  · rw [Context.stepOver_of_not_definesMacro preprocessed (not_exists.mp defines) number context]

/-- A definition in the body of a class, with white space in all places and a body of its own that
the scan does not look into. -/
theorem definition_in_class_read :
    let context := Context.run .cpp [⟨1, "class A \x7b".toList⟩]
    let line := "#\tdefine  F(x) \x7b".toList
    DefinesMacro line "F".toList ∧ context.scopes.current = "A" ∧
      context.stepOver .cpp ⟨2, line⟩ = context.adding
        [{ name := "F", kind := .constant, scope := "A", line := 2, language := .cpp
           description := some "Preprocessor macro" }] := by
  have defines : DefinesMacro "#\tdefine  F(x) \x7b".toList "F".toList := by
    have spelled : "#\tdefine  F(x) \x7b".toList =
        '#' ::
          (['\t'] ++ ("define".toList ++ ([' ', ' '] ++ ("F".toList ++ "(x) \x7b".toList)))) := by
          decide
    rw [spelled]
    exact .intro _ _ _ _ (by decide) (by decide) (by decide) (by decide) (by decide) (by decide)
  exact ⟨defines, by decide, (directive_line_read (by decide) _ 2 _).1 _ defines⟩

end Symtab
