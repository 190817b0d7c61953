import Symtab.Proofs.Destructuring

/-!
# Names with a dollar sign

A JavaScript name may hold dollar signs. A list in brackets reports such a name whole, while a
declaration of the name alone ends it in front of the first dollar sign, so the two agree exactly on
names without one.
-/

set_option autoImplicit false

namespace Symtab

theorem Context.adding_inj {context : Context} {symbols others : List Symbol} :
    context.adding symbols = context.adding others ↔ symbols = others := by
  refine ⟨fun same => ?_, fun same => by rw [same]⟩
  exact List.append_cancel_left (congrArg Context.symbols same)

namespace Rules.JavaScript

open Pattern

/-- A line that declares a single name. -/
def plainLine (keyword : DeclaringWord) (name : LocalName) (value : AsciiWord) : List Char :=
  keyword.written.toList ++ ' ' :: (name.text ++ ' ' :: '=' :: ' ' :: (value.text ++ [';']))

/-- The word that a name starts with, which is empty in front of a dollar sign. -/
def LocalName.leadingWord (name : LocalName) : List Char :=
  name.text.takeWhile Text.isWord

theorem LocalName.isAsciiWord_leadingWord (name : LocalName) :
    ∀ c ∈ name.leadingWord, isAsciiWord c = true := by
  intro c member
  have isWord : Text.isWord c = true := List.mem_takeWhile_imp member
  refine (name.allowed c ((List.takeWhile_prefix _).subset member)).resolve_right ?_
  rintro rfl
  exact absurd isWord (by decide)

section PlainLine

variable (keyword : DeclaringWord) (name : LocalName) (value : AsciiWord)

private theorem not_mem_plainLine {c : Char} (outside : isAsciiWord c = false)
    (otherSign : c ∉ ['$', ' ', '=', ';']) :
    c ∉ plainLine keyword name value := by
  simp only [List.mem_cons, List.not_mem_nil, or_false, not_or] at otherSign
  have inKeyword : c ∉ keyword.written.toList := keyword.word.not_mem outside
  simp [plainLine, inKeyword, name.not_mem outside otherSign.1, value.not_mem outside, otherSign]

private theorem wordsApart_assigned {text : List Char}
    (visible : ∀ c ∈ text, Text.isBlank c = false) :
    WordsApart (text ++ ' ' :: '=' :: ' ' :: (value.text ++ [';'])) := by
  have before : WordsApart (text ++ [' ']) := (WordsApart.of_visible visible).concat (by decide)
  have behind : WordsApart (' ' :: (value.text ++ [';'])) :=
    ((WordsApart.of_visible value.isBlank).concat (by decide)).cons (by decide)
  rw [List.append_cons]
  exact before.append_cons (by decide) (by decide) behind

/-- The rules that find nothing in a line with a single name, whatever the name. -/
theorem find?_plainLine :
    ∀ rule ∈ [function, classes, constructors, method, destructuring] ++ table.checks,
    rule.pattern.find? (plainLine keyword name value) = none := by
  have noParen :=
    find?_of_no_paren (not_mem_plainLine keyword name value (c := '(') (by decide) (by decide))
  have noBrackets :=
    destructuring_find? (not_mem_plainLine keyword name value (c := '{') (by decide) (by decide))
    (not_mem_plainLine keyword name value (by decide) (by decide))
  refine List.forall_mem_append.mpr
    ⟨?_, find?_of_no_dot (not_mem_plainLine keyword name value (by decide) (by decide))⟩
  simp only [List.forall_mem_cons]
  exact ⟨noParen _ (by simp), classes_find?_keyword keyword
    (wordsApart_assigned value name.isBlank), noParen _ (by simp),
    noParen _ (by simp), noBrackets, by simp⟩

variable {name}

private theorem exists_dollar_cons (empty : name.leadingWord = []) :
    ∃ others, name.text = '$' :: others := by
  obtain ⟨c, others, split⟩ := List.exists_cons_of_ne_nil name.nonempty
  have notWord : Text.isWord c = false := by
    rw [LocalName.leadingWord, split, List.takeWhile_eq_nil_iff] at empty
    simpa using empty (Nat.zero_lt_succ _)
  rcases name.allowed c (by rw [split]; exact List.mem_cons_self) with ascii | rfl
  · rw [isWord_of_isAsciiWord ascii] at notWord
    cases notWord
  · exact ⟨others, split⟩

/-- No keyword has a word behind it, so no rule is left that could read the line. -/
theorem find?_plainLine_of_dollar (empty : name.leadingWord = []) :
    ∀ rule ∈ table.cascade ++ table.checks,
      rule.pattern.find? (plainLine keyword name value) = none := by
  obtain ⟨others, split⟩ := exists_dollar_cons empty
  have line : plainLine keyword name value =
      keyword.written.toList ++ ' ' :: '$' ::
        (others ++ ' ' :: '=' :: ' ' :: (value.text ++ [';'])) := by simp [plainLine, split]
  have visible : ∀ c ∈ others, Text.isBlank c = false :=
    fun c member => name.isBlank c (by rw [split]; exact List.mem_cons_of_mem _ member)
  have apart : WordsApart (plainLine keyword name value) := by
    have before : WordsApart (keyword.written.toList ++ [' ']) :=
      (WordsApart.of_visible keyword.word.isBlank).concat (by decide)
    rw [line, List.append_cons]
    exact before.append_cons (by decide) (by decide) (wordsApart_assigned value visible)
  have noField : field.pattern.find? (plainLine keyword name value) = none := by
    rw [line]
    exact field_find?_sign keyword (by decide) (by decide) (by decide) _
  have noVariable : plainVariables.pattern.find? (plainLine keyword name value) = none :=
    find?_eq_none_of_not_leadsWord eq_of_reads_declaringWord (by decide) fun word _ => apart word
  have noImport : imports.pattern.find? (plainLine keyword name value) = none := by
    have anchored : imports.pattern.Anchored := trivial
    have different : keyword.word.text ≠ "import".toList := by cases keyword <;> decide
    exact anchored.find?_eq_none
      (((keyword.word.blocked_of_otherKeyword (by decide) (by decide) different
        _).append _).append _)
  obtain ⟨others, checks⟩ := List.forall_mem_append.mp (find?_plainLine keyword name value)
  refine List.forall_mem_append.mpr ⟨?_, checks⟩
  simp only [table, List.forall_mem_cons] at others ⊢
  exact ⟨others.1, others.2.1, others.2.2.1, others.2.2.2.1, noField, others.2.2.2.2.1, noVariable,
    noImport, by simp⟩

private theorem step_plainLine_of_dollar (empty : name.leadingWord = []) (number : Nat)
    (context : Context) :
    context.step .javascript ⟨number, plainLine keyword name value⟩ = context := by
  have notClosing : plainLine keyword name value ≠ ['}'] :=
    Context.ne_closingBrace (not_mem_plainLine keyword name value (by decide) (by decide))
  have read :=
    Context.read_of_find?_eq_none (find?_plainLine_of_dollar keyword value empty) .javascript
      number context
  simp only [Context.step, if_neg notClosing]
  exact read

private theorem step_plainLine_of_word (nonempty : name.leadingWord ≠ []) (number : Nat)
    (context : Context) :
    context.step .javascript ⟨number, plainLine keyword name value⟩ =
      context.adding [localSymbol keyword context number name.leadingWord] := by
  let word : AsciiWord := ⟨name.leadingWord, nonempty, name.isAsciiWord_leadingWord⟩
  let finish :=
    String.ofList (name.text.dropWhile Text.isWord ++ ' ' :: '=' :: ' ' :: (value.text ++ [';']))
  have line : plainLine keyword name value = word.between (keyword.written ++ " ") finish := by
    have split : name.leadingWord ++ name.text.dropWhile Text.isWord = name.text :=
      List.takeWhile_append_dropWhile
    rw [plainLine, ← split]
    simp [AsciiWord.between, word, finish]
  have edge : ∀ c ∈ finish.toList.head?, Text.isWord c = false := by
    rw [String.toList_ofList]
    refine Text.head?_append_of (fun c first => ?_) (stops_before (by decide) _)
    have outside := List.head?_dropWhile_not Text.isWord name.text
    rwa [first] at outside
  have finds := plainVariables_finds word keyword.written_mem edge
  have noField := field_find?_keyword word keyword.written_mem finish
  rw [← line] at finds noField
  obtain ⟨others, checks⟩ := List.forall_mem_append.mp (find?_plainLine keyword name value)
  have unmatched :
      ∀ rule ∈ [function, classes, constructors, method, field, destructuring] ++ table.checks,
      rule.pattern.find? (plainLine keyword name value) = none := by
    refine List.forall_mem_append.mpr ⟨?_, checks⟩
    simp only [List.forall_mem_cons] at others ⊢
    exact ⟨others.1, others.2.1, others.2.2.1, others.2.2.2.1, noField, others.2.2.2.2.1, by simp⟩
  have outcome : plainVariables.effect? [(.name, word.text), (.keyword, keyword.written.toList)]
      (plainLine keyword name value) context =
      some
        { declarations := [{ name := word.name, kind := keyword.kind, scope := context.scopes.current }] } := by
    change some ({
      declarations :=
        (Declaration.of? context.scopes.current (declaredKind keyword.written.toList)
          word.text).toList } : Effect) = _
    rw [word.declaration_of?, keyword.declaredKind_written]
    rfl
  rw [Context.step_of_claims _ plainVariables [imports] rfl unmatched finds outcome rfl
    (not_mem_plainLine keyword name value (by decide) (by decide))]
  rfl

/-- A list of one name that has brackets right around it. -/
theorem step_single (name : LocalName) (number : Nat) (context : Context) :
    context.step .javascript ⟨number, bracketLine keyword .square name.text value⟩ =
      context.adding [localSymbol keyword context number name.text] := by
  have plain : ∀ c ∈ ['(', '}', ']'], c ∉ name.text := by
    intro c member
    have outside : isAsciiWord c = false ∧ c ≠ '$' := by
      revert c
      decide
    exact name.not_mem outside.1 outside.2
  have bound : (name.text.splitOn ',').map boundLocal = [name].map (·.text) := by
    have whole :=
      Binding.boundLocal_text ⟨.nothing, name, none⟩ ⟨[], List.forall_mem_nil _⟩
        ⟨[], List.forall_mem_nil _⟩
    rw [List.splitOn_eq_singleton (name.not_mem (by decide) (by decide)), List.map_singleton]
    simpa [Binding.text, Lead.text, Binding.tail] using whole
  exact step_bracketLine name.nonempty plain (.of_visible name.isBlank)
    (.of_not_mem (name.not_mem (by decide) (by decide))) bound
    (List.cons_ne_nil _ _) keyword .square value number context

private theorem leadingWord_eq_text_iff : name.leadingWord = name.text ↔ '$' ∉ name.text := by
  rw [LocalName.leadingWord, List.takeWhile_eq_self_iff]
  constructor
  · intro isWord member
    exact absurd (isWord '$' member) (by decide)
  · intro absent c member
    refine isWord_of_isAsciiWord ((name.allowed c member).resolve_right ?_)
    rintro rfl
    exact absent member

end PlainLine

/-- The symbols that a line with a single name adds. -/
def plainSymbols (keyword : DeclaringWord) (context : Context) (number : Nat) (name : LocalName) :
    List Symbol :=
  if name.leadingWord = [] then [] else [localSymbol keyword context number name.leadingWord]

private theorem plainSymbols_eq_iff (keyword : DeclaringWord) (context : Context) (number : Nat)
    (name : LocalName) :
    plainSymbols keyword context number name = [localSymbol keyword context number name.text] ↔
      '$' ∉ name.text := by
  rw [← leadingWord_eq_text_iff, plainSymbols]
  split
  case isTrue empty => simp [empty, name.nonempty.symm]
  case isFalse => simp [localSymbol, String.ofList_inj]

/-- Both lines are read as they are written. The one with brackets reports the name, and the one
without them the word that the name starts with, or nothing if that word is empty. So the two do the
same exactly if the name has no dollar sign. -/
theorem plain_declaration_agrees_iff (keyword : DeclaringWord) (name : LocalName)
    (value : AsciiWord) (number : Nat) (context : Context) :
    (IsPrintedLine .javascript (bracketLine keyword .square name.text value) ∧
        IsPrintedLine .javascript (plainLine keyword name value)) ∧
      context.step .javascript ⟨number, bracketLine keyword .square name.text value⟩ =
        context.adding [localSymbol keyword context number name.text] ∧
      context.step .javascript ⟨number, plainLine keyword name value⟩ =
        context.adding (plainSymbols keyword context number name) ∧
      (context.step .javascript ⟨number, plainLine keyword name value⟩ =
        context.step .javascript ⟨number, bracketLine keyword .square name.text value⟩ ↔
          '$' ∉ name.text) := by
  have inBrackets := step_single keyword value name number context
  have alone : context.step .javascript ⟨number, plainLine keyword name value⟩ =
      context.adding (plainSymbols keyword context number name) := by
    rw [plainSymbols]
    split
    case isTrue empty => rw [step_plainLine_of_dollar keyword value empty, Context.adding_nil]
    case isFalse nonempty => exact step_plainLine_of_word keyword value nonempty number context
  have oneLine : '\n' ∉ name.text := name.not_mem (by decide) (by decide)
  refine ⟨⟨isPrintedLine_bracketLine oneLine _ _ _, isPrintedLine_assigned oneLine _ _⟩,
    inBrackets, alone, ?_⟩
  rw [inBrackets, alone, Context.adding_inj, plainSymbols_eq_iff]

/-- A name that starts with a dollar sign is reported from a list in brackets only. -/
theorem dollar_name_lost_without_brackets :
    Context.initial.step .javascript ⟨1, "let $x = 0;".toList⟩ = Context.initial ∧
      Context.initial.step .javascript ⟨1, "let [$x] = 0;".toList⟩ =
        Context.initial.adding
          [{ name := "$x", kind := .variable, scope := "global", line := 1, language := .javascript }] :=
  ⟨by decide +kernel, step_single .letWord ⟨['0'], by decide, by decide⟩
    ⟨"$x".toList, by decide, by decide⟩ 1 Context.initial⟩

end Rules.JavaScript

end Symtab
