import Symtab.Proofs.Provenance
import Symtab.Proofs.WordEdges

/-!
# Names are whole words

The rules for C, C++, Java and C# name what they declare by a word of the line, or by the last word
of a path on it. No reading cuts such a word: a class name that ends in `final` is not read as a
shorter name with that word behind it, and the name of a type definition is not the end of a longer
word.
-/

set_option autoImplicit false

namespace Symtab

/-- The word stands in the line, and its ends there are ends of a word. -/
structure IsWholeWord (line word : List Char) : Prop where
  nonempty : word ≠ []
  isWord : ∀ c ∈ word, Text.isWord c = true
  stands : StandsApart line word

/-- A name without the mark of a destructor, which only C++ has. -/
def Language.bareName (language : Language) (name : String) : List Char :=
  if language = .cpp ∧ name.toList.head? = some '~' then name.toList.tail else name.toList

/-- Whatever name the text gives is a whole word of the line, apart from the mark of a
destructor. -/
def NamesWholeWord (language : Language) (line raw : List Char) : Prop :=
  ∀ name, cleanName? raw = some name → IsWholeWord line (language.bareName name)

theorem IsWholeWord.names {line word : List Char} (whole : IsWholeWord line word)
    (language : Language) :
    NamesWholeWord language line word := by
  intro name cleaned
  rw [cleanName?_word whole.nonempty whole.isWord] at cleaned
  cases cleaned
  have unmarked : word.head? ≠ some '~' :=
    fun first => absurd (whole.isWord _ (List.mem_of_head? first)) (by decide)
  simpa [Language.bareName, unmarked] using whole

theorem Pattern.HoldsApart.isWholeWord {pattern : Pattern} {slot : Slot}
    (holds : pattern.HoldsApart slot word) {line : List Char} {found : Match}
    (matched : pattern.find? line = some found) {part : List Char}
    (held : found.captures.text? slot = some part) : IsWholeWord line part := by
  obtain ⟨stands, _, _, _, _, reads⟩ := holds line found part matched held
  obtain ⟨nonempty, isWord, _⟩ := reads.of_many1
  exact ⟨nonempty, isWord, stands⟩

/-- The last segment of a path that stands apart is a whole word, or it names nothing. -/
theorem namesWholeWord_lastSegment {line path : List Char} (stands : StandsApart line path)
    (inPath : ∀ c ∈ path, Pattern.wordOr ['.'] c = true) (language : Language) :
    NamesWholeWord language line (Text.lastSegment '.' path) := by
  have segment :
      ∃ start last, path = start ++ last ∧ (∀ c ∈ start.getLast?, Text.isWord c = false) ∧
      '.' ∉ last ∧
      Text.afterLast '.' path = last := by
    by_cases present : '.' ∈ path
    · obtain ⟨leading, trailing, rfl, absent⟩ := Text.exists_last_occurrence present
      exact ⟨leading ++ ['.'], trailing, by simp, by simp; decide, absent,
        Text.afterLast_append_cons leading absent⟩
    · exact ⟨[], path, rfl, by simp, present, Text.afterLast_of_not_mem present⟩
  obtain ⟨start, last, rfl, edge, absent, cut⟩ := segment
  have isWord : ∀ c ∈ last, Text.isWord c = true := by
    intro c member
    have inside := inPath c (List.mem_append_right start member)
    have other : c ≠ '.' := fun same => absent (same ▸ member)
    simpa [Pattern.wordOr, other] using inside
  have noBlank : ∀ c ∈ last, Text.isBlank c = false :=
    fun c member => Text.isBlank_eq_false_of_isWord (isWord c member)
  rw [Text.lastSegment, cut, Text.trim, Text.strip_of_outside noBlank]
  cases last with
  | nil =>
    intro name cleaned
    cases cleaned
  | cons c last => exact IsWholeWord.names ⟨by simp, isWord, stands.suffix edge⟩ language

namespace Rules

open Pattern

/-!
## The forms of the lines

Every rule that declares a name is gone through here, with what stands in front of the name and
behind it.
-/

private theorem macroDefinition_holdsApart : macroDefinition.pattern.HoldsApart .name word :=
  holdsApart_of_last (alike_refl macroDefinition.pattern) (by simp) (stopsOutside_blanks1.after _)

theorem C.function_holdsApart : C.function.pattern.HoldsApart .name word := by
  refine holdsApart_of_edges
    (alike_refl C.function.pattern).assoc.assoc.assoc.assoc.assoc.assoc.assoc (by simp) (by simp)
    (by simp [C.openBody]) ?_ ((breaksWord_char (by decide)).before _).afterBlanks
  exact ((stopsOutside_blanks1.after _).repeated1.capture _).after _ |>.many
    (isWord_eq_false_of_oneOf (by decide))

theorem C.bounds_breaksWord {follow : Pattern} (breaks : follow.BreaksWord) :
    (C.bounds ++ follow).BreaksWord :=
  breaks.afterRepeated (((breaksWord_char (by decide)).before _).before _)

theorem C.typeDefinition_holdsApart : C.typeDefinition.pattern.HoldsApart .name word := by
  refine holdsApart_of_shortest
    (alike_refl C.typeDefinition.pattern).assoc.assoc.assoc.assoc.assoc.assoc (by simp)
    (by simp [C.bounds]) (stopsOutside_blanks1.after _) (by simp [C.bounds]) ?_
  exact (C.bounds_breaksWord ((breaksWord_char (by decide)).before _).afterBlanks).afterBlanks

theorem C.typeDefinitionEnd_holdsApart : C.typeDefinitionEnd.pattern.HoldsApart .name word :=
  holdsApart_of_edges (alike_refl C.typeDefinitionEnd.pattern).assoc.assoc.assoc (by simp)
    (by simp) (by simp)
    ((stopsOutside_literal rfl (by decide)).after _).blanks
      ((breaksWord_char (by decide)).before _).afterBlanks

theorem C.structures_holdsApart : C.structures.pattern.HoldsApart .name word :=
  holdsApart_of_edges (alike_refl C.structures.pattern).assoc.assoc.assoc (by simp) (by simp)
    (by simp [C.openBody])
    (stopsOutside_blanks1.after _)
      (breaksWord_lineEnd.afterOptional ((breaksWord_char (by decide)).before _)).afterBlanks

private theorem stopsOutside_pointer {included : List Char}
    (apart : ∀ c ∈ included, Text.isWord c = false) :
    ((blanks ++ many1 (oneOf included) ++ blanks) <|> blanks1).StopsOutside :=
  ((stopsOutside_many1 (isWord_eq_false_of_oneOf apart)).after _).blanks.orElse stopsOutside_blanks1

theorem C.plainVariables_holdsApart : C.plainVariables.pattern.HoldsApart .name word :=
  holdsApart_of_edges (alike_refl C.plainVariables.pattern).assoc.assoc.assoc.assoc (by simp)
    (by simp) (by simp [C.bounds])
    ((stopsOutside_pointer (by decide)).after _)
      (C.bounds_breaksWord (breaksWord_oneOf (by decide)).afterBlanks).afterBlanks

theorem Cpp.classes_holdsApart : Cpp.classes.pattern.HoldsApart .name word := by
  refine holdsApart_of_longest (alike_refl Cpp.classes.pattern).assoc.assoc.assoc.assoc.assoc
    (by simp [Cpp.templateHead])
    (by simp [Cpp.bodyOrSemicolon, Cpp.openBody])
    ((stopsOutside_blanks1.after _).optional (stopsOutside_blanks1.after _))
      (by simp [Cpp.bodyOrSemicolon, Cpp.openBody]) ?_
  have tail : Cpp.bodyOrSemicolon.BreaksWord :=
    ((breaksWord_char (by decide)).before _).orElse (breaksWord_char (by decide))
  exact outlastsRun_optionalWord (by decide)
    ((breaksWord_lineEnd.afterOptional (tail.capture _)).afterOptional
      ((breaksWord_char (by decide)).before _))

theorem Cpp.constructors_holdsApart : Cpp.constructors.pattern.HoldsApart .name Cpp.memberName := by
  refine holdsApart_of_edges
    (alike_refl Cpp.constructors.pattern).assoc.assoc.assoc.assoc.assoc.assoc.assoc.assoc.assoc
    (by simp [Cpp.qualification]) (by simp [Cpp.memberName])
      (by simp [Cpp.bodyOrSemicolon, Cpp.openBody]) ?_
    ((breaksWord_char (by decide)).before _).afterBlanks
  exact
    (stopsOutside_lineStart.repeated ((stopsOutside_literal rfl (by decide)).after _)).captured _

theorem Cpp.function_holdsApart :
    Cpp.function.pattern.HoldsApart .name (Cpp.qualification ++ Cpp.memberName) := by
  refine holdsApart_of_edges
    (alike_refl Cpp.function.pattern).assoc.assoc.assoc.assoc.assoc.assoc.assoc.assoc
    (by simp [Cpp.templateHead]) (by simp [Cpp.qualification, Cpp.memberName])
      (by simp [Cpp.bodyOrSemicolon, Cpp.openBody]) ?_
    ((breaksWord_char (by decide)).before _).afterBlanks
  exact ((stopsOutside_blanks1.after _).repeated1.capture _).after _ |>.many
    (isWord_eq_false_of_oneOf (by decide))

theorem Cpp.plainVariables_holdsApart : Cpp.plainVariables.pattern.HoldsApart .name word := by
  refine holdsApart_of_edges (alike_refl Cpp.plainVariables.pattern).assoc.assoc.assoc.assoc
    (by simp) (by simp) (by simp)
    ((stopsOutside_pointer (by decide)).after _) ?_
  exact (C.bounds_breaksWord ((breaksWord_oneOf (by decide)).capture _).afterBlanks).afterBlanks

theorem Java.imports_holdsApart : Java.imports.pattern.HoldsApart .path (few1 (wordOr ['.'])) :=
  holdsApart_of_edges (alike_refl Java.imports.pattern).assoc.assoc.assoc (by simp)
    (by simp [few1]) (by simp)
    ((stopsOutside_blanks1.after _).optional (stopsOutside_blanks1.after _))
    ((breaksWord_char (by decide)).afterBlanks.afterOptional
      ((breaksWord_literal rfl (by decide)).capture _))

theorem Java.classes_holdsApart : Java.classes.pattern.HoldsApart .name word :=
  holdsApart_of_last (alike_refl Java.classes.pattern) (by simp) (stopsOutside_blanks1.after _)

theorem Java.method_holdsApart : Java.method.pattern.HoldsApart .name word :=
  holdsApart_of_edges (alike_refl Java.method.pattern).assoc.assoc
    (by simp [Java.leadingWords, Java.typeName, Java.brackets])
    (by simp) (by simp) (stopsOutside_blanks1.after _) (breaksWord_char (by decide)).afterBlanks

theorem Java.bareConstructor_holdsApart : Java.bareConstructor.pattern.HoldsApart .name word :=
  holdsApart_of_edges
    (alike_refl Java.bareConstructor.pattern).assoc.assoc.assoc.assoc.assoc.assoc.assoc.assoc
    (by simp) (by simp) (by simp) stopsOutside_lineStart
      ((breaksWord_char (by decide)).before _).afterBlanks

theorem Java.plainVariables_holdsApart : Java.plainVariables.pattern.HoldsApart .name word :=
  holdsApart_of_edges (alike_refl Java.plainVariables.pattern).assoc.assoc.assoc.assoc
    (by simp [Java.leadingWords, Java.typeName, Java.brackets]) (by simp) (by simp [Java.brackets])
      (stopsOutside_blanks1.after _)
    ((breaksWord_oneOf (by decide)).afterBlanks.afterRepeated
      (breaksWord_literal rfl (by decide))).afterBlanks

theorem CSharp.usings_holdsApart : CSharp.usings.pattern.HoldsApart .path (many1 (wordOr ['.'])) :=
  holdsApart_of_edges (alike_refl CSharp.usings.pattern).assoc.assoc (by simp) (by simp) (by simp)
    (((stopsOutside_blanks1.after _).optional (stopsOutside_blanks1.after _)).optional
      ((stopsOutside_literal rfl (by decide)).after _).blanks)
    (breaksWord_char (by decide)).afterBlanks

theorem CSharp.classes_holdsApart : CSharp.classes.pattern.HoldsApart .name word :=
  holdsApart_of_last (alike_refl CSharp.classes.pattern) (by simp) (stopsOutside_blanks1.after _)

theorem CSharp.method_holdsApart : CSharp.method.pattern.HoldsApart .name word :=
  holdsApart_of_edges (alike_refl CSharp.method.pattern).assoc.assoc.assoc.assoc
    (by simp [CSharp.leadingWords, CSharp.typeName])
    (by simp) (by simp) (stopsOutside_blanks1.after _)
    ((breaksWord_char (by decide)).afterBlanks.afterOptional
      (((breaksWord_char (by decide)).before _).before _)).afterBlanks

theorem CSharp.bareConstructor_holdsApart : CSharp.bareConstructor.pattern.HoldsApart .name word :=
  holdsApart_of_edges (alike_refl
    CSharp.bareConstructor.pattern).assoc.assoc.assoc.assoc.assoc.assoc.assoc.assoc.assoc
    (by simp) (by simp) (by simp) stopsOutside_lineStart
      ((breaksWord_char (by decide)).before _).afterBlanks

theorem CSharp.property_holdsApart : CSharp.property.pattern.HoldsApart .name word :=
  holdsApart_of_edges (alike_refl CSharp.property.pattern).assoc.assoc
    (by simp [CSharp.leadingWords, CSharp.typeName]) (by simp)
    (by simp) (stopsOutside_blanks1.after _)
    ((breaksWord_char (by decide)).orElse (breaksWord_literal rfl (by decide))).afterBlanks

theorem CSharp.plainVariables_holdsApart : CSharp.plainVariables.pattern.HoldsApart .name word :=
  holdsApart_of_edges (alike_refl CSharp.plainVariables.pattern).assoc.assoc
    (by simp [CSharp.leadingWords, CSharp.typeName])
    (by simp) (by simp) (stopsOutside_blanks1.after _) (breaksWord_oneOf (by decide)).afterBlanks

/-!
## Names with marks and qualifications
-/

theorem Cpp.of_reads_memberName {before text rest : List Char} {captures kept : Captures}
    (reads : Cpp.memberName.Reads before text rest captures kept) :
    ∃ mark base, text = mark ++ base ∧ (mark = [] ∨ mark = ['~']) ∧ base ≠ [] ∧
    ∀ c ∈ base, Text.isWord c = true := by
  obtain ⟨mark, base, _, rfl, readMark, readBase⟩ := reads
  obtain ⟨nonempty, isWord, _⟩ := readBase.of_many1
  refine ⟨mark, base, rfl, ?_, nonempty, isWord⟩
  rcases readMark with ⟨marked, _⟩ | ⟨unmarked, _⟩
  · exact .inr marked
  · exact .inl unmarked

theorem Cpp.isBlank_of_reads_memberName {before text rest : List Char} {captures kept : Captures}
    (reads : Cpp.memberName.Reads before text rest captures kept) :
    ∀ c ∈ text, Text.isBlank c = false ∧ c ≠ ':' := by
  have within : Cpp.memberName.Within fun c => c = '~' ∨ Text.isWord c = true :=
    ⟨⟨by simp [char, Within], trivial⟩, fun _ => .inr, fun _ => .inr⟩
  intro c member
  rcases reads.within within c member with rfl | isWord
  · decide
  · exact ⟨Text.isBlank_eq_false_of_isWord isWord,
      fun same => absurd isWord (by subst same; decide)⟩

theorem Cpp.namesWholeWord_memberName {line before text rest : List Char} {captures kept : Captures}
    (stands : StandsApart line text) (reads : Cpp.memberName.Reads before text rest captures kept) :
    NamesWholeWord .cpp line text := by
  have noBlank := fun c member => (Cpp.isBlank_of_reads_memberName reads c member).1
  obtain ⟨mark, base, rfl, rfl | rfl, nonempty, isWord⟩ := Cpp.of_reads_memberName reads
  · exact IsWholeWord.names ⟨nonempty, isWord, stands⟩ .cpp
  · have noQuote : ∀ c ∈ ['~'] ++ base, isQuote c = false :=
      List.forall_mem_cons.mpr
        ⟨by decide, fun c member => isQuote_eq_false_of_isWord (isWord c member)⟩
    intro name cleaned
    rw [cleanName?_of_clean (by simp) noBlank noQuote] at cleaned
    cases cleaned
    have bare : Language.bareName .cpp (String.ofList (['~'] ++ base)) = base := by
      simp [Language.bareName]
    rw [bare]
    exact ⟨nonempty, isWord, stands.suffix (by decide)⟩

theorem Cpp.of_reads_qualification {before text rest : List Char} {captures kept : Captures}
    (reads : Cpp.qualification.Reads before text rest captures kept) :
    text = [] ∨ ∃ start, text = start ++ [':'] := by
  induction reads with
  | stop => exact .inl rfl
  | more first _ ih =>
    obtain ⟨name, _, _, rfl, _, ⟨rfl, _⟩⟩ := first
    rcases ih with rfl | ⟨start, rfl⟩
    · exact .inr ⟨name ++ [':'], by simp⟩
    · exact .inr ⟨name ++ "::".toList ++ start, by simp⟩

theorem Cpp.namesWholeWord_qualified {line before text rest : List Char} {captures kept : Captures}
    (stands : StandsApart line text)
    (reads : (Cpp.qualification ++ Cpp.memberName).Reads before text rest captures kept) :
    NamesWholeWord .cpp line (Text.lastSegment ':' text) := by
  obtain ⟨qualified, name, _, rfl, readQualified, readName⟩ := reads
  have plain := Cpp.isBlank_of_reads_memberName readName
  have noColon : ':' ∉ name := fun member => (plain ':' member).2 rfl
  have segment :
      Text.lastSegment ':' (qualified ++ name) = name ∧
      ∀ c ∈ qualified.getLast?, Text.isWord c = false := by
    rw [Text.lastSegment]
    rcases Cpp.of_reads_qualification readQualified with rfl | ⟨start, rfl⟩
    · rw [List.nil_append, Text.afterLast_of_not_mem noColon, Text.trim,
        Text.strip_of_outside fun c member => (plain c member).1]
      exact ⟨rfl, by simp⟩
    · rw [List.append_assoc, List.singleton_append, Text.afterLast_append_cons start noColon,
        Text.trim, Text.strip_of_outside fun c member => (plain c member).1]
      exact ⟨rfl, by simp; decide⟩
  rw [segment.1]
  exact Cpp.namesWholeWord_memberName (stands.suffix segment.2) readName

end Rules

/-!
## Rules
-/

/-- Whatever the effect declares is named by a whole word of the line. -/
def Effect.NamesWholeWords (language : Language) (line : List Char) (effect : Effect) : Prop :=
  ∀ declaration ∈ effect.declarations, IsWholeWord line (language.bareName declaration.name)

section Effect

variable {language : Language} {line raw : List Char} {opens : List Scope} {group : GroupChange}
    {claims : Bool}

theorem Effect.namesWholeWords_nil :
    Effect.NamesWholeWords language line ⟨[], opens, group, claims⟩ := by
  simp [NamesWholeWords]

theorem Effect.namesWholeWords_of? (names : NamesWholeWord language line raw) {scope : String}
    {kind : Kind} {dataType : Option (List Char)} {description : Option String} :
    Effect.NamesWholeWords language line
      ⟨(Declaration.of? scope kind raw dataType description).toList, opens, group, claims⟩ :=
  Declaration.forall_mem_of? names

end Effect

/-- Whatever the rule declares on a line in which it finds a match is named by a whole word of that
line. -/
def Rule.NamesWholeWords (language : Language) (rule : Rule) : Prop :=
  ∀ line context found, rule.pattern.find? line = some found →
    Yields (Effect.NamesWholeWords language line) (rule.effect? found.captures line context)

namespace Rules

open Effect

private theorem macroDefinition_namesWholeWords (language : Language) :
    macroDefinition.NamesWholeWords language := by
  intro line context found matched
  exact .bindKept fun name held =>
    .some
      (namesWholeWords_of? ((macroDefinition_holdsApart.isWholeWord matched held).names language))

theorem C.namesWholeWords : ∀ rule ∈ C.table.cascade, rule.NamesWholeWords .c := by
  simp only [C.table, List.forall_mem_cons]
  refine ⟨macroDefinition_namesWholeWords .c, ?function, ?typeDefinition, ?typeDefinitionEnd,
    ?structures, ?plainVariables, by simp⟩
  all_goals intro line context found matched
  case function =>
    exact .bindKept fun head _ => .bindKept fun name held => .ite .none
      (.some (namesWholeWords_of? ((C.function_holdsApart.isWholeWord matched held).names .c)))
  case typeDefinition =>
    exact .bindKept fun name held =>
      .some (namesWholeWords_of? ((C.typeDefinition_holdsApart.isWholeWord matched held).names .c))
  case typeDefinitionEnd =>
    exact .bindKept fun name held =>
      .some
        (namesWholeWords_of? ((C.typeDefinitionEnd_holdsApart.isWholeWord matched held).names .c))
  case structures =>
    exact .bindKept fun name held =>
      .some (namesWholeWords_of? ((C.structures_holdsApart.isWholeWord matched held).names .c))
  case plainVariables =>
    exact .bindKept fun dataType _ => .bindKept fun name held => .ite .none
      (.some
        (namesWholeWords_of? ((C.plainVariables_holdsApart.isWholeWord matched held).names .c)))

theorem Cpp.constructorEffect_namesWholeWords {line name : List Char}
    (names : NamesWholeWord .cpp line name) (owner : String) :
    (Cpp.constructorEffect line owner name).NamesWholeWords .cpp line :=
  namesWholeWords_of? names

theorem Cpp.namesWholeWords : ∀ rule ∈ Cpp.table.cascade, rule.NamesWholeWords .cpp := by
  simp only [Cpp.table, List.forall_mem_cons]
  refine ⟨macroDefinition_namesWholeWords .cpp, ?namespaces, ?classes, ?constructors, ?function,
    ?plainVariables, by simp⟩
  all_goals intro line context found matched
  case namespaces => exact .bindKept fun name _ => .some namesWholeWords_nil
  case classes =>
    exact .bindKept fun name held =>
      .some (namesWholeWords_of? ((Cpp.classes_holdsApart.isWholeWord matched held).names .cpp))
  case constructors =>
    refine .bindKept fun qualification _ => .bindKept fun name held => ?_
    obtain ⟨stands, _, _, _, _, reads⟩ := Cpp.constructors_holdsApart line found name matched held
    have declared :=
      Cpp.constructorEffect_namesWholeWords (Cpp.namesWholeWord_memberName stands reads)
    exact .ite (.ite .none (.some (declared _))) (.ite .none (.some (declared _)))
  case function =>
    refine .bindKept fun head _ => .bindKept fun qualified held => .bindKept fun parameters _ =>
      .ite .none ?_
    obtain ⟨stands, _, _, _, _, reads⟩ := Cpp.function_holdsApart line found qualified matched held
    have names := Cpp.namesWholeWord_qualified stands reads
    have declared := Cpp.constructorEffect_namesWholeWords names
    dsimp only
    split
    · exact .ite (.some (declared _)) (.some (namesWholeWords_of? names))
    · exact .ite (.some (declared _)) (.some (namesWholeWords_of? names))
  case plainVariables =>
    exact .bindKept fun dataType _ => .bindKept fun name held => .bindKept fun tail _ => .ite .none
      (.some
        (namesWholeWords_of? ((Cpp.plainVariables_holdsApart.isWholeWord matched held).names .cpp)))

theorem Java.namesWholeWords : ∀ rule ∈ Java.table.cascade, rule.NamesWholeWords .java := by
  simp only [Java.table, List.forall_mem_cons]
  refine ⟨?package, ?imports, ?classes, ?method, ?bareConstructor, ?plainVariables, by simp⟩
  all_goals intro line context found matched
  case package => exact .some namesWholeWords_nil
  case imports =>
    refine .bindKept fun path held =>
      .ite (.some namesWholeWords_nil) (.some (namesWholeWords_of? ?_))
    obtain ⟨stands, _, _, _, _, reads⟩ := Java.imports_holdsApart line found path matched held
    exact namesWholeWord_lastSegment stands (reads.within ⟨fun _ => id, fun _ => id⟩) .java
  case classes =>
    exact .bindKept fun name held =>
      .some (namesWholeWords_of? ((Java.classes_holdsApart.isWholeWord matched held).names .java))
  case method =>
    refine .bindKept fun dataType _ => .bindKept fun name held => .ite .none (.some ?_)
    have names := (Java.method_holdsApart.isWholeWord matched held).names .java
    split
    · exact namesWholeWords_of? names
    · exact namesWholeWords_of? names
  case bareConstructor =>
    exact .bindKept fun name held => .ite .none
      (.some (namesWholeWords_of?
        ((Java.bareConstructor_holdsApart.isWholeWord matched held).names .java)))
  case plainVariables =>
    exact .bindKept fun dataType _ => .bindKept fun name held => .ite .none
      (.some (namesWholeWords_of?
        ((Java.plainVariables_holdsApart.isWholeWord matched held).names .java)))

theorem CSharp.namesWholeWords : ∀ rule ∈ CSharp.table.cascade, rule.NamesWholeWords .csharp := by
  simp only [CSharp.table, List.forall_mem_cons]
  refine ⟨?usings, ?namespaces, ?classes, ?method, ?bareConstructor, ?property,
    ?plainVariables, by simp⟩
  all_goals intro line context found matched
  case usings =>
    refine .bindKept fun path held => .some (namesWholeWords_of? ?_)
    obtain ⟨stands, _, _, _, _, reads⟩ := CSharp.usings_holdsApart line found path matched held
    exact namesWholeWord_lastSegment stands (reads.within ⟨fun _ => id, fun _ => id⟩) .csharp
  case namespaces => exact .bindKept fun name _ => .some namesWholeWords_nil
  case classes =>
    exact .bindKept fun name held =>
      .some
        (namesWholeWords_of? ((CSharp.classes_holdsApart.isWholeWord matched held).names .csharp))
  case method =>
    refine .bindKept fun dataType _ => .bindKept fun name held => .ite .none (.some ?_)
    have names := (CSharp.method_holdsApart.isWholeWord matched held).names .csharp
    split
    · exact namesWholeWords_of? names
    · exact namesWholeWords_of? names
  case bareConstructor =>
    exact .bindKept fun name held => .ite .none
      (.some
        (namesWholeWords_of? ((CSharp.bareConstructor_holdsApart.isWholeWord matched held).names
          .csharp)))
  case property =>
    exact .bindKept fun dataType _ => .bindKept fun name held => .ite .none
      (.some
        (namesWholeWords_of? ((CSharp.property_holdsApart.isWholeWord matched held).names .csharp)))
  case plainVariables =>
    exact .bindKept fun dataType _ => .bindKept fun name held => .ite .none
      (.some
        (namesWholeWords_of? ((CSharp.plainVariables_holdsApart.isWholeWord matched held).names
          .csharp)))

end Rules

/-- The languages whose rules only declare words of the line. -/
def wordLanguages : List Language :=
  [.c, .cpp, .java, .csharp]

theorem Language.namesWholeWords : ∀ language ∈ wordLanguages,
    language.rules.checks = [] ∧
    ∀ rule ∈ language.rules.cascade, rule.NamesWholeWords language := by
  simp only [wordLanguages, List.forall_mem_cons]
  exact ⟨⟨rfl, Rules.C.namesWholeWords⟩, ⟨rfl, Rules.Cpp.namesWholeWords⟩,
    ⟨rfl, Rules.Java.namesWholeWords⟩,
    ⟨rfl, Rules.CSharp.namesWholeWords⟩, by simp⟩

/-!
## Scans
-/

namespace Context

/-- Every symbol found so far is named by a whole word of the line that it was found on. -/
def NamedByWords (language : Language) (lines : List Line) (context : Context) : Prop :=
  ∀ symbol ∈ context.symbols, ∃ line ∈ lines, line.number = symbol.line ∧
    IsWholeWord line.text (language.bareName symbol.name)

theorem NamedByWords.apply {language : Language} {lines : List Line} {context : Context}
    (named : NamedByWords language lines context) {line : Line} (read : line ∈ lines)
    {effect : Effect} (words : effect.NamesWholeWords language line.text) :
    NamedByWords language lines (context.apply language line.number effect) := by
  intro symbol member
  rcases List.mem_append.mp member with before | here
  · exact named symbol before
  · obtain ⟨declaration, declared, rfl⟩ := List.mem_map.mp here
    exact ⟨line, read, rfl, words declaration declared⟩

theorem NamedByWords.step {language : Language} (member : language ∈ wordLanguages)
    {lines : List Line} {context : Context} (named : NamedByWords language lines context)
    {line : Line} (read : line ∈ lines) :
    NamedByWords language lines (context.step language line) := by
  obtain ⟨unchecked, words⟩ := Language.namesWholeWords language member
  have cascaded :
      NamedByWords language lines (context.read language.rules language line.number line.text) := by
    rw [Context.read, unchecked]
    refine cascaded_preserves (NamedByWords language lines) ?_ named
    intro rule listed before found matched namedBefore
    unfold Rule.tryMatch
    split
    · next effect outcome =>
        exact namedBefore.apply read
          (words rule listed line.text before found matched effect outcome)
    · exact namedBefore
  unfold Context.step
  split
  · exact cascaded
  · exact cascaded

theorem run_namedByWords {language : Language} (member : language ∈ wordLanguages)
    (lines : List Line) :
    NamedByWords language lines (run language lines) := by
  refine run_induction (NamedByWords language) language (by simp [NamedByWords, initial]) ?_ lines
  intro lines line named
  refine NamedByWords.step member (fun symbol found => ?_)
    (List.mem_append_right lines (List.mem_singleton_self line))
  obtain ⟨earlier, read, whole⟩ := named symbol found
  exact ⟨earlier, List.mem_append_left [line] read, whole⟩

end Context

/-- In C, C++, Java and C# every name that a scan reports is a whole word of the line that it is
reported for: without the mark of a destructor, which only C++ has, it is made of word characters,
and the line has no word character right before or after it. -/
theorem scan_names_whole_words {language : Language} (member : language ∈ wordLanguages)
    (source : String) :
    ∀ symbol ∈ scan language source,
      1 ≤ symbol.line ∧ ∃ raw, (Text.lines source.toList)[symbol.line - 1]? = some raw ∧
        IsWholeWord (Text.trim raw) (language.bareName symbol.name) := by
  intro symbol reported
  have found := (dedup_sublist _).subset reported
  obtain ⟨line, read, same, whole⟩ := Context.run_namedByWords member _ symbol found
  obtain ⟨positive, raw, stands, trimmed⟩ := raw_of_mem_significantLines read
  rw [← same]
  exact ⟨positive, raw, stands, trimmed ▸ whole⟩

/-- The destructor of a class whose name ends like the word `final`, which could have been read
behind a shorter name. -/
theorem destructor_named_by_whole_word :
    let source := "class Afinal \x7b\n  ~Afinal();"
    let symbol : Symbol :=
      { name := "~Afinal", kind := .constructor, scope := "Afinal", line := 2, language := .cpp,
        description := "Destructor" }
    Language.cpp ∈ wordLanguages ∧ symbol ∈ scan .cpp source ∧
      ∃ raw, (Text.lines source.toList)[1]? = some raw ∧
        IsWholeWord (Text.trim raw) "Afinal".toList := by
  intro source symbol
  have listed : Language.cpp ∈ wordLanguages := by decide
  have reported : symbol ∈ scan .cpp source := by decide +kernel
  have bare : Language.cpp.bareName symbol.name = "Afinal".toList := by decide +kernel
  obtain ⟨_, raw, stands, whole⟩ := scan_names_whole_words listed source symbol reported
  exact ⟨listed, reported, raw, stands, bare ▸ whole⟩

end Symtab
