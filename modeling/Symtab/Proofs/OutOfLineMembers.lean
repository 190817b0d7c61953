import Symtab.Proofs.MemberLines

/-!
# Members defined outside their class

The definition of a member outside its class is reported as a constructor if the name is that of the
class which the qualification ends with, and as a method of the class otherwise. Without words in
front of the name only a constructor is reported.
-/

set_option autoImplicit false

namespace Symtab.Rules.Cpp

open Pattern

/-!
## The match
-/

theorem HeadWord.takes_headPiece (word : HeadWord) {rest : List Char}
    (stops : ∀ c ∈ rest.head?, Text.isBlank c = false) (before : List Char) (captures : Captures) :
    headPiece.Takes ⟨before, word.text ++ ' ' :: rest⟩ ⟨' ' :: (word.text.reverse ++ before), rest⟩
      captures captures := by
  have read := ((takes_one word.isStart before (word.others ++ ' ' :: rest) captures).append
    (takes_many word.inOthers (stops_before (by decide) rest) _ captures)).append
      (takes_blanks1_space stops _ captures)
  simpa [text] using read

private theorem takes_headPieces (words : List HeadWord) {rest : List Char}
    (stops : ∀ c ∈ rest.head?, Text.isBlank c = false)
    (blocked : ∀ before, headPiece.Blocked ⟨before, rest⟩) (before : List Char)
    (captures : Captures) :
    (repeated headPiece).Takes ⟨before, (words.flatMap fun word => word.text ++ [' ']) ++ rest⟩
      ⟨(words.flatMap fun word => word.text ++ [' ']).reverse ++ before, rest⟩ captures
        captures := by
  induction words generalizing before with
  | nil => exact takes_repeated_nothing (blocked before) captures
  | cons word words ih =>
    have stuck : ¬headPiece.Passes fun _ => false := by simp
    have nextStops :
        ∀ c ∈ ((words.flatMap fun word => word.text ++ [' ']) ++ rest).head?,
          Text.isBlank c = false := by
      cases words with
      | nil => exact stops
      | cons next words => exact stops_before (next.isBlank next.first List.mem_cons_self) _
    simpa using Takes.repeatedRound stuck (word.takes_headPiece nextStops before captures) (ih _)

/-- The words of a path are read one by one. -/
theorem takes_qualification (path : WordPath) {rest : List Char}
    (blocked : ∀ before, (word ++ text "::").Blocked ⟨before, rest⟩) (before : List Char)
    (captures : Captures) :
    qualification.Takes ⟨before, (path.text ++ "::".toList) ++ rest⟩
      ⟨(path.text ++ "::".toList).reverse ++ before, rest⟩
      captures captures := by
  have stuck : ¬(word ++ text "::").Passes fun _ => false := by simp
  have round (segment : Word) (rest : List Char) (before : List Char) :
      (word ++ text "::").Takes ⟨before, segment.text ++ ("::".toList ++ rest)⟩
        ⟨"::".toList.reverse ++ (segment.text.reverse ++ before), rest⟩ captures captures :=
    (segment.takes_word (stops_before (by decide) _) before captures).append
      (takes_literal "::".toList _ rest captures)
  obtain ⟨leading, last⟩ := path
  induction leading generalizing before with
  | nil =>
    have read :=
      Takes.repeatedRound stuck (round last rest before)
        (takes_repeated_nothing (blocked _) captures)
    simpa [qualification, WordPath.text] using read
  | cons segment leading ih =>
    have read :=
      Takes.repeatedRound stuck (round segment ((WordPath.text ⟨leading, last⟩ ++ "::".toList) ++
        rest) before) (ih _)
    simpa [qualification, WordPath.text_cons] using read

/-- The brace at the end of the line. -/
theorem takes_brace {first : Pattern} {place : Cursor} {before : List Char}
    {captures kept : Captures} (read : first.Takes place ⟨before, ['{']⟩ captures kept) :
    (first ++ optional (capture .tail bodyOrSemicolon) ++ lineEnd).Takes place
      ⟨'{' :: before, []⟩ captures
      ((.tail, ['{']) :: kept) := by
  have stops : ∀ c ∈ ([] : List Char).head?, inLine c = false := by simp
  have body : bodyOrSemicolon.Takes ⟨before, ['{'] ++ []⟩ ⟨'{' :: before, []⟩ kept kept :=
    ((takes_literal ['{'] before [] kept).append (takes_many_nil stops _ kept)).firstChoice
  exact (read.append (body.capture .tail).optionally).append (takes_lineEnd _ _)

namespace OutOfLineMember

variable (member : OutOfLineMember)

/-- No further word of a qualification is read in the name. -/
theorem segment_blocked (before : List Char) :
    (word ++ Pattern.text "::").Blocked ⟨before, member.name ++ member.signature⟩ := by
  rw [name]
  split
  · have mark : Text.isWord '~' = false := by decide
    exact blocked_of_next (c := '~') (by simp) (by simp [mark]) before _
  · have colon : Text.isWord ':' = false := by decide
    have parenthesis : Text.isWord '(' = false := by decide
    exact member.base.blocked_of_break (by simp [colon]) parenthesis
      (by simp [colon, parenthesis]) before _

theorem takes_memberName (before : List Char) (captures : Captures) :
    memberName.Takes ⟨before, member.name ++ member.signature⟩
      ⟨member.name.reverse ++ before, member.signature⟩ captures
      captures := by
  have stops : ∀ c ∈ member.signature.head?, Text.isWord c = false := stops_before (by decide) _
  rw [name]
  split
  · have read :=
      (takes_literal ['~'] before (member.base.text ++ member.signature) captures).optionally.append
      (member.base.takes_word stops _ captures)
    simpa [memberName, char] using read
  · have unmarked : (char '~').Blocked ⟨before, member.base.text ++ member.signature⟩ := by
      obtain ⟨c, rest, split, isWord⟩ := member.base.exists_first
      have different : '~' ≠ c := by
        rintro rfl
        exact absurd isWord (by decide)
      rw [split]
      exact blocked_of_next (by simp) (by simp [different]) before _
    exact (takes_optional_nothing unmarked captures).append
      (member.base.takes_word stops _ captures)

/-- The parameters in their parentheses and the space behind them. -/
theorem takes_parameters {first : Pattern} {place : Cursor} {before : List Char}
    {captures kept : Captures} (read : first.Takes place ⟨before, member.signature⟩ captures kept) :
    ∃ later, (first ++ blanks ++ char '(' ++ capture .parameters (many (noneOf [')'])) ++
      char ')' ++ blanks).Takes place
      ⟨later, ['{']⟩ captures ((.parameters, member.parameterText) :: kept) := by
  have inside : ∀ c ∈ member.parameterText, noneOf [')'] c = true := by
    intro c listed
    have different : c ≠ ')' := by
      rintro rfl
      exact absurd (member.inParameterText ')' listed) (by decide)
    simp [noneOf, different]
  have opened := (read.append (takes_blanks_nil (stops_before (by decide) _) before kept)).append
    (takes_literal ['('] before (member.parameterText ++ ')' :: ' ' :: ['{']) kept)
  have listed :=
    opened.append ((takes_many inside (stops_before (by decide) _) _ kept).capture .parameters)
  exact ⟨_, (listed.append (takes_literal [')'] _ _ _)).append
    (takes_blanks_space (stops_before (by decide) _) _ _)⟩

/-- The texts that a match keeps of the line from its parameters on. -/
def signatureCaptures : Captures :=
  [(.tail, ['{']), (.parameters, member.parameterText)]

/-- The texts that a match keeps of a line without words in front of the name. -/
def constructorCaptures : Captures :=
  member.signatureCaptures ++ [(.name, member.name), (.owner, member.qualifier)]

private theorem constructors_finds (bare : member.head = []) :
    constructors.pattern.Finds member.text member.constructorCaptures := by
  have qualified := (takes_lineStart member.qualifiedText []).append
    ((takes_qualification member.path member.segment_blocked [] []).capture .owner)
  have named := qualified.append ((member.takes_memberName _ _).capture .name)
  obtain ⟨later, listed⟩ := member.takes_parameters named
  have noNoexcept : (Pattern.text "noexcept" ++ blanks).Blocked ⟨later, ['{']⟩ :=
    blocked_of_next (by simp) (by simp) later []
  have noInitializers : (char ':' ++ many inLine).Blocked ⟨later, ['{']⟩ :=
    blocked_of_next (by simp) (by simp) later []
  have whole :=
    takes_brace ((listed.append (takes_optional_nothing noNoexcept _)).append
      (takes_optional_nothing noInitializers _))
  rw [member.text_of_head_nil bare]
  exact whole.finds

/-- The texts that a match keeps of a line with words in front of the name. -/
def functionCaptures : Captures :=
  member.signatureCaptures ++ [(.name, member.qualifier ++ member.name), (.head, member.headText)]

private theorem takes_head (led : member.head ≠ []) :
    (repeated1 headPiece).Takes ⟨[], member.headText ++ member.qualifiedText⟩
      ⟨member.headText.reverse, member.qualifiedText⟩ [] [] := by
  obtain ⟨word, words, leads⟩ := List.exists_cons_of_ne_nil led
  have stops (words : List HeadWord) :
      ∀ c ∈ ((words.flatMap fun word => word.text ++ [' ']) ++ member.qualifiedText).head?,
        Text.isBlank c = false :=
    fun c first => Text.isBlank_eq_false_of_isWord (member.isWord_head?_behind words c first)
  have read := (word.takes_headPiece (stops words) [] []).append
    (takes_headPieces words (stops []) member.headPiece_unread.blocked
      (' ' :: (word.text.reverse ++ [])) [])
  simpa [headText, leads, repeated1] using read

private theorem takes_qualifiedName (before : List Char) (captures : Captures) :
    ∃ later, (capture .name (qualification ++ memberName)).Takes ⟨before, member.qualifiedText⟩
      ⟨later, member.signature⟩ captures
      ((.name, member.qualifier ++ member.name) :: captures) := by
  have read :=
    (takes_qualification member.path member.segment_blocked before captures).append
      (member.takes_memberName _ _)
  rw [← List.append_assoc] at read
  rw [qualifiedText, ← List.append_assoc]
  exact ⟨_, read.capture .name⟩

theorem function_finds (led : member.head ≠ []) :
    function.pattern.Finds member.text member.functionCaptures := by
  have stops : ∀ c ∈ member.qualifiedText.head?, oneOf ['*', '&'] c = false := by
    intro c first
    exact oneOf_eq_false (by decide) (member.isWord_head?_behind [] c first)
  have noTemplate :=
    (takes_lineStart member.text []).append
      (takes_optional_nothing (member.template_unread.blocked []) [])
  have headed :=
    (noTemplate.append ((member.takes_head led).capture .head)).append (takes_many_nil stops _ _)
  obtain ⟨behind, qualified⟩ :=
    member.takes_qualifiedName member.headText.reverse [(.head, member.headText)]
  obtain ⟨later, listed⟩ := member.takes_parameters (headed.append qualified)
  exact (takes_brace (listed.append (takes_many_nil (stops_before (by decide) []) _ _))).finds

/-!
## The effect
-/

private theorem cleanName?_name : cleanName? member.name = some (String.ofList member.name) := by
  have nonempty : member.name ≠ [] := by
    rw [name]
    split
    · exact List.cons_ne_nil _ _
    · exact member.base.nonempty
  exact cleanName?_of_clean nonempty
    (fun c inside => isBlank_of_wordOr (by decide) (member.inName c inside))
    fun c inside => isQuote_of_wordOr (by decide) (member.inName c inside)

private theorem baseName_name : baseName member.name = member.base.text := by
  have unmarked : member.base.text.dropWhile (· == '~') = member.base.text :=
    Text.dropWhile_of_head? fun c first => by
      have different : c ≠ '~' :=
        fun same => member.base.not_mem (by decide) (same ▸ List.mem_of_head? first)
      simpa using different
  rw [baseName, name]
  split
  · rw [List.dropWhile_cons_of_pos (by decide), unmarked]
  · exact unmarked

private theorem head?_name : member.name.head? = some '~' ↔ member.isDestructor = true := by
  obtain ⟨c, rest, split, isWord⟩ := member.base.exists_first
  cases destructor : member.isDestructor with
  | true => simp [name, destructor]
  | false =>
    have different : c ≠ '~' := by
      rintro rfl
      exact absurd isWord (by decide)
    simp [name, destructor, split, different]

private theorem stripEnd_qualifier :
    Text.stripEnd (· == ':') member.qualifier = member.path.text := by
  refine Text.stripEnd_append (fun c last => ?_) (by decide)
  have different : c ≠ ':' := by
    rintro rfl
    exact absurd (member.path.isWord_getLast? ':' last) (by decide)
  simpa using different

private theorem qualifyingClass_qualifier :
    qualifyingClass member.qualifier = member.path.last.text := by
  rw [qualifyingClass, member.stripEnd_qualifier, member.path.lastSegment_text]

private theorem lastSegment_qualified :
    Text.lastSegment ':' (member.qualifier ++ member.name) = member.name := by
  have noColon : ':' ∉ member.name := fun inside => absurd (member.inName ':' inside) (by decide)
  have split :
      member.qualifier ++ member.name = (member.path.text ++ [':']) ++ ':' :: member.name := by
    simp [qualifier]
  rw [Text.lastSegment, split, Text.afterLast_append_cons _ noColon]
  exact Text.strip_of_outside fun c inside => isBlank_of_wordOr (by decide) (member.inName c inside)

private theorem ownerOf?_qualified :
    ownerOf? (member.qualifier ++ member.name) member.name = some member.path.last.text := by
  have nonempty : ¬member.path.text.isEmpty = true := by simpa using member.path.text_ne_nil
  simp only [ownerOf?, Text.dropSuffix?_append, Option.bind_eq_bind, Option.bind_some,
    member.stripEnd_qualifier, if_neg nonempty, member.path.lastSegment_text]
  rfl

/-- The effect of the line if it is understood as a declaration. -/
def effect (declaration : Declaration) : Effect where
  declarations := [declaration]
  opens := [member.scope]

private theorem openedIf_name {leftOpen : Bool} (isOpen : leftOpen = true) :
    Scope.openedIf leftOpen member.name .function = [member.scope] := by
  rw [isOpen, Scope.openedIf, if_pos rfl, Scope.of?, member.cleanName?_name]
  rfl

private theorem constructorEffect_text :
    constructorEffect member.text member.path.last.name member.name =
      member.effect member.asConstructor := by
  have isOpen :
      (opensBlock member.text || !(endsIn member.text ';' || endsIn member.text '}')) = true := by
    rw [member.opensBlock_text, Bool.true_or]
  simp only [constructorEffect, member.openedIf_name isOpen, Declaration.of?,
    member.cleanName?_name, member.head?_name]
  rfl

private theorem constructors_effect? (context : Context) :
    constructors.effect? member.constructorCaptures member.text context =
      if member.base.text = member.path.last.text then some (member.effect member.asConstructor)
      else none := by
  have qualified : ¬member.qualifier.isEmpty = true := by simp [qualifier]
  have found : constructors.effect? member.constructorCaptures member.text context =
      if qualifyingClass member.qualifier ≠ baseName member.name then none
      else some (constructorEffect member.text (String.ofList (qualifyingClass member.qualifier))
        member.name) :=
    if_neg qualified
  rw [found, member.qualifyingClass_qualifier, member.baseName_name]
  by_cases same : member.base.text = member.path.last.text
  · rw [if_neg (not_not.mpr same.symm), if_pos same]
    exact congrArg some member.constructorEffect_text
  · rw [if_pos (Ne.symm same), if_neg same]

private theorem words_headText : Text.words member.headText = member.head.map HeadWord.text := by
  have words (heads : List HeadWord) :
      Text.words (heads.flatMap fun word => word.text ++ [' ']) = heads.map HeadWord.text := by
    induction heads with
    | nil => rfl
    | cons word heads ih =>
      rw [List.flatMap_cons, List.append_assoc, List.singleton_append,
        Text.words_cons word.text_ne_nil word.isBlank (by decide : Text.isBlank ' ' = true), ih,
          List.map_cons]
  exact words member.head

private theorem wordsWithout?_headText :
    wordsWithout? specifiers member.headText = member.dataType := by
  rw [wordsWithout?, member.words_headText, dataType, typeWords]
  split
  · next none => rw [if_pos none]
  · next words some => rw [if_neg some]

private theorem cleanName?_dataType :
    member.dataType.bind cleanName? = member.dataType.map String.ofList := by
  have each :
      ∀ word ∈ member.typeWords, word ≠ [] ∧ (∀ c ∈ word, Text.isBlank c = false) ∧
      ∀ c ∈ word, isQuote c = false := by
    intro text kept
    obtain ⟨word, _, rfl⟩ := List.mem_map.mp (List.mem_of_mem_filter kept)
    exact ⟨word.text_ne_nil, word.isBlank, fun c inside =>
      isQuote_of_wordOr (by decide) (word.inText c inside)⟩
  rw [dataType]
  split
  · rfl
  · next nonempty => rw [Option.bind_some, Option.map_some, cleanName?_intercalate nonempty each]

private theorem isStatementKeyword_qualified :
    isStatementKeyword (member.qualifier ++ member.name) = false :=
  isAmong_eq_false (c := ':') (by simp [qualifier]) (by decide)

private theorem looksLikeArguments_parameterText :
    looksLikeArguments member.parameterText = false := by
  rw [looksLikeArguments, commaSeparated, parameterText]
  by_cases empty : member.parameters = []
  · rw [empty]
    decide
  · have noComma : ∀ text ∈ member.parameters.map Parameter.text, ',' ∉ text := by
      intro text listed
      obtain ⟨parameter, _, rfl⟩ := List.mem_map.mp listed
      exact fun inside => absurd (parameter.inText ',' inside) (by decide)
    rw [List.splitOn_intercalate ',' noComma (by simpa using empty), List.map_map, List.any_map,
      List.any_eq_false]
    exact fun parameter _ => Bool.eq_false_iff.mp parameter.isValue_trim

private theorem function_effect? (context : Context) :
    function.effect? member.functionCaptures member.text context =
      some (member.effect (if member.base.text = member.path.last.text then member.asConstructor
        else member.asMethod)) := by
  have noKeyword : (Text.words member.headText).any isStatementKeyword = false := by
    rw [member.words_headText, List.any_map, List.any_eq_false]
    exact fun word _ => Bool.eq_false_iff.mp word.notKeyword
  have head : member.functionCaptures.text? .head = some member.headText := rfl
  have qualified : member.functionCaptures.text? .name = some (member.qualifier ++ member.name) :=
    rfl
  have parameters : member.functionCaptures.text? .parameters = some member.parameterText := rfl
  have isOpen : (opensBlock member.text || !member.functionCaptures.has .tail) = true := by
    rw [member.opensBlock_text, Bool.true_or]
  simp only [function, head, qualified, parameters, Option.bind_eq_bind, Option.bind_some,
    noKeyword, member.isStatementKeyword_qualified, member.looksLikeArguments_parameterText,
    Bool.or_false, Bool.false_eq_true, if_false, member.lastSegment_qualified,
    member.ownerOf?_qualified, member.baseName_name, member.wordsWithout?_headText,
    member.openedIf_name isOpen]
  by_cases same : member.base.text = member.path.last.text
  · rw [if_pos same.symm, if_pos same]
    exact congrArg some member.constructorEffect_text
  · rw [if_neg (Ne.symm same), if_neg same, Declaration.of?, member.cleanName?_name,
      member.cleanName?_dataType]
    rfl

/-!
## The step
-/

private theorem unmatched_earlier :
    ∀ rule ∈ [macroDefinition, namespaces, classes], rule.pattern.find? member.text = none := by
  simp [member.macroDefinition_find?, member.namespaces_find?, member.classes_find?]

private theorem not_mem_text_closing : '}' ∉ member.text :=
  member.not_mem_text (by decide) (by decide)

private theorem step_of_led (context : Context) (number : Nat) (led : member.head ≠ []) :
    context.step .cpp ⟨number, member.text⟩ = context.apply .cpp number
      (member.effect (if member.base.text = member.path.last.text then member.asConstructor
        else member.asMethod)) := by
  have unmatched :
      ∀ rule ∈ [macroDefinition, namespaces, classes] ++ [constructors],
        rule.pattern.find? member.text = none :=
    List.forall_mem_append.mpr ⟨member.unmatched_earlier, by simp [member.constructors_find? led]⟩
  exact Context.step_of_claims_unchecked rfl _ function [plainVariables] rfl unmatched
    (member.function_finds led)
    (member.function_effect? context) rfl member.not_mem_text_closing

private theorem step_of_bare_constructor (context : Context) (number : Nat)
    (bare : member.head = []) (same : member.base.text = member.path.last.text) :
    context.step .cpp ⟨number, member.text⟩ =
      context.apply .cpp number (member.effect member.asConstructor) := by
  have outcome := (member.constructors_effect? context).trans (if_pos same)
  exact Context.step_of_claims_unchecked rfl _ constructors [function, plainVariables] rfl
    member.unmatched_earlier
    (member.constructors_finds bare) outcome rfl member.not_mem_text_closing

private theorem step_of_bare_other (context : Context) (number : Nat) (bare : member.head = [])
    (different : member.base.text ≠ member.path.last.text) :
    context.step .cpp ⟨number, member.text⟩ = context := by
  have declined := (member.constructors_effect? context).trans (if_neg different)
  have passed :
      ∀ rule ∈ [macroDefinition, namespaces, classes] ++ [constructors, function, plainVariables],
      rule.tryLine .cpp number member.text context = (context, false) := by
    refine List.forall_mem_append.mpr
      ⟨fun rule listed => Context.tryLine_of_find?_eq_none
        (member.unmatched_earlier rule listed), ?_⟩
    simp only [List.forall_mem_cons]
    exact ⟨Context.tryLine_of_finds (member.constructors_finds bare) declined,
      Context.tryLine_of_find?_eq_none (member.function_find? bare),
      Context.tryLine_of_find?_eq_none (member.plainVariables_find? bare), List.forall_mem_nil _⟩
  exact Context.step_of_all_passed rfl (Context.ne_closingBrace member.not_mem_text_closing) passed

/-- The definition of a member outside its class is reported in the class that its name is qualified
with, and its body is opened; a name without words in front of it is passed over unless it is that
of the class. -/
theorem reported_in_qualifying_class (context : Context) (number : Nat) :
    context.step .cpp ⟨number, member.text⟩ =
      match member.declaration? with
      | some declaration =>
        { context with
          symbols := context.symbols ++ [declaration.toSymbol .cpp number]
          names := context.names ++ [declaration.name]
          scopes := context.scopes.push member.scope }
      | none => context := by
  by_cases same : member.base.text = member.path.last.text
  · rw [declaration?, if_pos same]
    by_cases bare : member.head = []
    · exact member.step_of_bare_constructor context number bare same
    · rw [member.step_of_led context number bare, if_pos same]
      rfl
  · rw [declaration?, if_neg same]
    by_cases bare : member.head = []
    · rw [if_pos (List.isEmpty_iff.mpr bare)]
      exact member.step_of_bare_other context number bare same
    · rw [if_neg (by simpa using bare), member.step_of_led context number bare, if_neg same]
      rfl

example : ∃ member : OutOfLineMember,
    member.text = "virtual Point* Plane::Shape::corner(int row, int column) \x7b".toList ∧
    member.declaration? =
      some { name := "corner", kind := .method, scope := "Shape", dataType := some "Point*" } := by
  let virtual : HeadWord := ⟨'v', "irtual".toList, by decide, by decide, by decide⟩
  let point : HeadWord := ⟨'P', "oint*".toList, by decide, by decide, by decide⟩
  let path : WordPath :=
    ⟨[⟨"Plane".toList, by decide, by decide⟩], ⟨"Shape".toList, by decide, by decide⟩⟩
  let int : Word := ⟨"int".toList, by decide, by decide⟩
  let row : Parameter := ⟨⟨[], by decide⟩, int, ⟨"row".toList, by decide, by decide⟩, by decide⟩
  let column : Parameter :=
    ⟨⟨[' '], by decide⟩, int, ⟨"column".toList, by decide, by decide⟩, by decide⟩
  exact ⟨⟨[virtual, point], by decide, path, false, ⟨"corner".toList, by decide, by decide⟩,
    [row, column]⟩, by decide⟩

end OutOfLineMember

end Symtab.Rules.Cpp
