import Symtab.Proofs.Excerpt
import Symtab.Proofs.LineForms

/-!
# Lines of a Rust program

What a line of each form of item does to a scan, whatever its names. All rules hold to the start of
the line, so the first character rules most of them out; in front of a field, it is the colon after
the first word.
-/

set_option autoImplicit false

namespace Symtab

namespace Rules.Rust

open Pattern

/-!
## Lines without a match
-/

private theorem cascade_anchored : ∀ rule ∈ table.cascade, rule.pattern.Anchored := by
  simp only [table, List.forall_mem_cons]
  exact ⟨trivial, trivial, trivial, trivial, trivial, trivial, trivial, trivial, trivial, trivial,
    trivial, trivial, by simp⟩

private theorem cascade_stuck : ∀ rule ∈ table.cascade, ¬rule.pattern.Passes fun _ => false := by
  simp only [table, List.forall_mem_cons, imports, function, implementation, traits, structures,
    typeAlias, modules, plainVariables, tupleVariables, statics, constants, field, itemStart]
  simp

/-- The first letter of a keyword, and how many rules come before the one that knows the keyword. -/
def leadingLetters : List (Nat × Char) :=
  [(1, 'f'), (2, 'i'), (3, 't'), (4, 's'), (6, 'm'), (7, 'l')]

private theorem unmet_leadingLetter : ∀ place ∈ leadingLetters, ∀ rule ∈ table.cascade.take place.1,
    ¬rule.pattern.Meets (fun _ => false) place.2 := by
  simp only [leadingLetters, table, List.take, List.forall_mem_cons, imports, function,
    implementation, traits, structures, typeAlias, modules, itemStart, visibility]
  simp [anyText, Text.isBlank]

/-- A rule that cannot start with the first character of a line finds nothing there. -/
theorem find?_of_first {rule : Rule} (inTable : rule ∈ table.cascade) {c : Char}
    (unmet : ¬rule.pattern.Meets (fun _ => false) c) (rest : List Char) :
    rule.pattern.find? (c :: rest) = none :=
  (cascade_anchored rule inTable).find?_eq_none
    (blocked_of_next (cascade_stuck rule inTable) unmet [] rest)

theorem find?_of_leadingLetter {count : Nat} {c : Char} (leads : (count, c) ∈ leadingLetters)
    (rest : List Char) :
    ∀ rule ∈ table.cascade.take count, rule.pattern.find? (c :: rest) = none :=
  fun rule member => find?_of_first (List.mem_of_mem_take member)
    (unmet_leadingLetter _ leads rule member) rest

/-- Only one rule before that for constants knows a line that starts like them: a function can be
constant. -/
theorem unmet_c :
    ∀ rule ∈ imports :: (table.cascade.take 10).drop 2,
      ¬rule.pattern.Meets (fun _ => false) 'c' := by
  simp only [table, List.take, List.drop, List.forall_mem_cons, imports, implementation, traits,
    structures, typeAlias, modules, plainVariables, tupleVariables, statics, itemStart, visibility]
  simp [anyText, Text.isBlank]

private theorem unmet_s :
    ∀ rule ∈ (table.cascade.take 9).drop 5, ¬rule.pattern.Meets (fun _ => false) 's' := by
  simp only [table, List.take, List.drop, List.forall_mem_cons, typeAlias, modules, plainVariables,
    tupleVariables, itemStart, visibility]
  simp

/-- Of the words for structures, only one starts like `static`, and its third letter is another
one. -/
theorem structures_find?_static (rest : List Char) :
    structures.pattern.find? ("static".toList ++ rest) = none := by
  have anchored : structures.pattern.Anchored := trivial
  have ahead : ("static".toList ++ rest).find? (!(oneOf ['s', 't']) ·) = some 'a' := rfl
  refine anchored.find?_eq_none (blocked_of_not_meets ?_ ahead ?_)
  · simp [structures, itemStart, anyText, oneOf]
  · simp [structures, itemStart, visibility, anyText, oneOf, Text.isBlank]

theorem find?_static (rest : List Char) :
    ∀ rule ∈ table.cascade.take 9, rule.pattern.find? ("static".toList ++ rest) = none := by
  have earlier :
      ∀ rule ∈ table.cascade.take 4, rule.pattern.find? ("static".toList ++ rest) = none :=
    find?_of_leadingLetter (c := 's') (by decide) _
  have later :
      ∀ rule ∈ (table.cascade.take 9).drop 5, rule.pattern.find? ("static".toList ++ rest) = none :=
    fun rule member => find?_of_first (c := 's')
      (List.mem_of_mem_take (List.mem_of_mem_drop member)) (unmet_s rule member) _
  have split :
      table.cascade.take 9 = table.cascade.take 4 ++ structures :: (table.cascade.take 9).drop 5 :=
    rfl
  rw [split, List.forall_mem_append, List.forall_mem_cons]
  exact ⟨earlier, structures_find?_static rest, later⟩

private theorem isBlank_colon : Text.isBlank ':' = false := by decide

/-- Every rule but the last needs something else than a colon after the first word. -/
theorem unmet_colon : ∀ rule ∈ table.cascade.take 11,
    ¬rule.pattern.Passes Text.isWord ∧ ¬rule.pattern.Meets Text.isWord ':' := by
  simp only [table, List.take, List.forall_mem_cons, imports, function, implementation, traits,
    structures, typeAlias, modules, plainVariables, tupleVariables, statics, constants, itemStart,
    visibility]
  have noParen : Text.isWord '(' = false := by decide
  have noAngle : Text.isWord '<' = false := by decide
  simp [Text.not_exists_blank_word, anyText, isBlank_colon, noParen, noAngle]

private theorem find?_field (name : AsciiWord) (rest : List Char) :
    ∀ rule ∈ table.cascade.take 11, rule.pattern.find? (name.text ++ ':' :: rest) = none := by
  intro rule member
  obtain ⟨stuck, unmet⟩ := unmet_colon rule member
  exact (cascade_anchored rule (List.mem_of_mem_take member)).find?_eq_none
    (name.blocked_of_break stuck (by decide) unmet [] rest)

/-!
## Matches
-/

/-- The mark of an item that is not private. -/
def publicMark : Pattern :=
  text "pub" ++ optional (blanks ++ char '(' ++ many (noneOf [')']) ++ char ')') ++ blanks1

private theorem takes_itemStart {line : List Char} (isPrivate : publicMark.Blocked ⟨[], line⟩) :
    itemStart.Takes ⟨[], line⟩ ⟨[], line⟩ [] [] :=
  (takes_lineStart line []).append (takes_optional_nothing isPrivate [])

private theorem takes_itemStart_of_first {c : Char} (different : c ≠ 'p') (rest : List Char) :
    itemStart.Takes ⟨[], c :: rest⟩ ⟨[], c :: rest⟩ [] [] := by
  refine takes_itemStart (blocked_of_next (by simp [publicMark]) ?_ [] rest)
  simpa [publicMark] using different.symm

/-- The words before `fn`. -/
def qualifier : Pattern :=
  (anyText ["default", "const", "async", "unsafe"] <|>
    (text "extern" ++ optional (blanks1 ++ char '"' ++ many (noneOf ['"']) ++ char '"'))) ++ blanks1

theorem function_finds (name : Word) {rest : List Char}
    (stops : ∀ c ∈ rest.head?, Text.isWord c = false) :
    function.pattern.Finds ("fn".toList ++ ' ' :: (name.text ++ rest)) [(.name, name.text)] := by
  have unqualified : qualifier.Blocked ⟨[], "fn".toList ++ ' ' :: (name.text ++ rest)⟩ :=
    blocked_of_next (c := 'f') (by simp [qualifier])
      (by simp [qualifier, anyText, Text.isBlank]) _ _
  exact (((((takes_itemStart_of_first (by decide) _).append
    (takes_repeated_nothing unqualified [])).append
    (takes_literal "fn".toList _ _ _)).append (name.takes_space _ _ _)).append
    ((name.takes_word stops _ _).capture .name)).finds

private theorem modules_finds (name : AsciiWord) :
    modules.pattern.Finds (name.between "mod " " \x7b") [(.name, name.text)] := by
  change modules.pattern.Finds ("mod".toList ++ ' ' :: (name.text ++ ' ' :: ['{'])) _
  exact ((((((takes_itemStart_of_first (by decide) _).append
    (takes_literal "mod".toList _ _ _)).append
    (name.takes_space _ _ _)).append ((name.takes_word (by decide) _ _).capture .name)).append
    (takes_blanks_space (by decide) _ _)).append (takes_literal ['{'] _ _ _)).finds

private theorem structures_finds (name : AsciiWord) :
    structures.pattern.Finds (name.between "struct " " \x7b")
      [(.name, name.text), (.keyword, "struct".toList)] := by
  change structures.pattern.Finds ("struct".toList ++ ' ' :: (name.text ++ " \x7b".toList)) _
  have keyword :
      (anyText ["struct", "enum", "union"]).Takes
        ⟨[], "struct".toList ++ ' ' :: (name.text ++ " \x7b".toList)⟩
      ⟨"struct".toList.reverse ++ [], ' ' :: (name.text ++ " \x7b".toList)⟩ [] [] :=
    .firstChoice (takes_literal _ _ _ _)
  exact ((((takes_itemStart_of_first (by decide) _).append (keyword.capture .keyword)).append
    (name.takes_space _ _ _)).append
    ((name.takes_word (by decide) _ _).capture .name)).finds

private theorem traits_finds (name : AsciiWord) :
    traits.pattern.Finds (name.between "trait " " \x7b") [(.name, name.text)] := by
  change traits.pattern.Finds ("trait".toList ++ ' ' :: (name.text ++ " \x7b".toList)) _
  have safe :
      (text "unsafe" ++ blanks1).Blocked
        ⟨[], "trait".toList ++ ' ' :: (name.text ++ " \x7b".toList)⟩ :=
    blocked_of_next (c := 't') (by simp) (by simp) _ _
  exact (((((takes_itemStart_of_first (by decide) _).append (takes_optional_nothing safe [])).append
    (takes_literal "trait".toList _ _ _)).append (name.takes_space _ _ _)).append
    ((name.takes_word (by decide) _ _).capture .name)).finds

/-- A trait before the type takes two gaps, and there is only one between the name and the brace. -/
theorem traitPart_blocked (name : AsciiWord) (before : List Char) :
    (few1 (wordOr [':', '<', '>', ',', ' ']) ++ blanks1 ++ text "for" ++ blanks1).Blocked
      ⟨before, name.text ++ ' ' :: ['{']⟩ := by
  refine blocked_of_not_reads fun _ rest captures kept split reads => ?_
  obtain ⟨_, lastGap, _, rfl, ⟨_, _, _, rfl, ⟨trait, gap, _, rfl, _, gapReads⟩, ⟨rfl, _⟩⟩,
    lastGapReads⟩ := reads
  have blankIn : ∀ {before text rest : List Char} {captures kept : Captures},
      blanks1.Reads before text rest captures kept → 1 ≤ text.countP Text.isBlank := by
    intro before text rest captures kept gapReads
    obtain ⟨_, _, _, rfl, ⟨⟨c, rfl, blank⟩, _⟩, _⟩ := gapReads
    simp [blank]
  have oneGap : (name.text ++ ' ' :: ['{']).countP Text.isBlank = 1 := by
    have noBlank : name.text.countP Text.isBlank = 0 := by
      rw [List.countP_eq_zero]
      simpa using name.isBlank
    rw [List.countP_append, noBlank]
    decide
  have first := blankIn gapReads
  have second := blankIn lastGapReads
  rw [split] at oneGap
  simp only [List.countP_append] at oneGap
  omega

private theorem implementation_finds (name : AsciiWord) :
    implementation.pattern.Finds (name.between "impl " " \x7b") [(.name, name.text)] := by
  change implementation.pattern.Finds ("impl".toList ++ ' ' :: (name.text ++ ' ' :: ['{'])) _
  have absent : ∀ c ∈ ['<', '&', ':'], c ∉ name.text ++ ' ' :: ['{'] := by
    have fixed : ∀ c ∈ ['<', '&', ':'], isAsciiWord c = false ∧ c ∉ [' ', '{'] := by decide
    intro c member inRest
    have outside := fixed c member
    rcases List.mem_append.mp inRest with inName | after
    · exact name.not_mem outside.1 inName
    · exact outside.2 after
  have safe :
      (text "unsafe" ++ blanks1).Blocked
        ⟨[], "impl".toList ++ ' ' :: (name.text ++ ' ' :: ['{'])⟩ :=
    blocked_of_next (c := 'i') (by simp) (by simp) _ _
  have noParameters : (blanks ++ char '<' ++ few (noneOf ['{']) ++ char '>').Blocked
      ⟨"impl".toList.reverse ++ [], ' ' :: (name.text ++ ' ' :: ['{'])⟩ := by
    refine blocked_of_not_mem (c := '<') (by simp) ?_
    exact List.not_mem_cons_of_ne_of_not_mem (by decide) (absent '<' (by decide))
  have noReference :
      (char '&').Blocked ⟨' ' :: ("impl".toList.reverse ++ []), name.text ++ ' ' :: ['{']⟩ :=
    blocked_of_not_mem (by simp) (absent '&' (by decide))
  have noPath :
      (word ++ text "::").Blocked
        ⟨' ' :: ("impl".toList.reverse ++ []), name.text ++ ' ' :: ['{']⟩ :=
    blocked_of_not_mem (by simp) (absent ':' (by decide))
  have header := (((takes_lineStart _ []).append (takes_optional_nothing safe [])).append
    (takes_literal "impl".toList _ _ _)).append (takes_optional_nothing noParameters [])
  exact (((((header.append (name.takes_space _ _ _)).append
    (takes_optional_nothing (traitPart_blocked name _) [])).append
    (takes_optional_nothing noReference [])).append (takes_repeated_nothing noPath [])).append
    ((name.takes_word (by decide) _ _).capture .name)).finds

/-- A text with no blank at either end and no sign of an assignment in it. -/
structure IsTypeText (type : List Char) : Prop where
  nonempty : type ≠ []
  first : ∀ c ∈ type.head?, Text.isBlank c = false
  last : ∀ c ∈ type.getLast?, Text.isBlank c = false
  unassigned : '=' ∉ type

theorem isTypeText (type : AsciiWord) : IsTypeText type.text where
  nonempty := type.nonempty
  first c leads := type.isBlank c (List.mem_of_head? leads)
  last c ends := type.isBlank c (List.mem_of_getLast? ends)
  unassigned := type.not_mem (by decide)

section Types

variable {type : List Char} (isType : IsTypeText type) (before : List Char) (captures : Captures)
    {inClass : Char → Bool}
  (inside : ∀ c ∈ type, inClass c = true) {rest : List Char} {later : Cursor} {kept : Captures}

include isType inside

/-- A type is kept as a whole if what is to follow cannot start inside it. -/
theorem takes_type {follow : Pattern}
    (blocked : ∀ taken left, type = taken ++ left → left ≠ [] →
      ∀ before, follow.Blocked ⟨before, left ++ rest⟩)
    (readFollow : follow.Takes ⟨type.reverse ++ (' ' :: ':' :: before), rest⟩ later
      ((.type, type) :: captures) kept) :
    (char ':' ++ (blanks ++ (capture .type (few1 inClass) ++ follow))).Takes
      ⟨before, ':' :: (' ' :: (type ++ rest))⟩ later captures kept := by
  have first : ∀ c ∈ (type ++ rest).head?, Text.isBlank c = false := by
    obtain ⟨c, others, rfl⟩ := List.exists_cons_of_ne_nil isType.nonempty
    exact isType.first
  have gap :
      blanks.Takes ⟨':' :: before, ' ' :: (type ++ rest)⟩ ⟨' ' :: ':' :: before, type ++ rest⟩
        captures captures :=
    takes_blanks_space first _ _
  have whole :
      (capture .type (few1 inClass) ++ follow).Takes ⟨' ' :: ':' :: before, type ++ rest⟩ later
        captures kept :=
    .captureFew1 isType.nonempty inside
      (fun taken left split nonempty => blocked taken left split nonempty _) readFollow
  exact (takes_literal [':'] before _ captures).append (gap.append whole)

/-- A type reaches as far as the gap before the sign that ends it. -/
theorem takes_type_up_to {stop : Pattern} (stuck : ¬stop.Passes Text.isBlank)
    (unmet : ∀ c ∈ type, Text.isBlank c = false → ¬stop.Meets Text.isBlank c) {gap : List Char}
    (blankGap : ∀ c ∈ gap, Text.isBlank c = true) {c : Char} (notBlank : Text.isBlank c = false)
    (readStop : ∀ before captures,
      stop.Takes ⟨before, c :: rest⟩ ⟨c :: before, rest⟩ captures captures) :
    (char ':' ++ (blanks ++ (capture .type (few1 inClass) ++ (blanks ++ stop)))).Takes
      ⟨before, ':' :: (' ' :: (type ++ (gap ++ c :: rest)))⟩
      ⟨c :: (gap.reverse ++ (type.reverse ++ (' ' :: ':' :: before))), rest⟩ captures
        ((.type, type) :: captures) := by
  refine takes_type isType before captures inside ?_
    ((takes_many blankGap (stops_before notBlank rest) _ _).append (readStop _ _))
  intro taken left split nonempty before
  refine blocked_inside ?_ isType.last ?_ split nonempty before (gap ++ c :: rest)
  · simpa using stuck
  · intro d member visible
    simpa [visible] using unmet d member visible

end Types

/-- `mut` is no mark in front of a colon. -/
theorem mutMark_blocked (name : Word) (before rest : List Char) :
    (text "mut" ++ blanks1).Blocked ⟨before, name.text ++ ':' :: rest⟩ := by
  refine name.blocked_of_break ?_ (by decide) ?_ _ _
  · simp [Text.not_exists_blank_word]
  · simp +decide

section Typed

variable (name : Word) {type : List Char} (isType : IsTypeText type) {gap : List Char}
  (blankGap : ∀ c ∈ gap, Text.isBlank c = true) (rest : List Char)

include isType blankGap

theorem plainVariables_finds (unended : ';' ∉ type) {c : Char} (ends : c ∈ ['=', ';']) :
    plainVariables.pattern.Finds
      ("let".toList ++ ' ' :: (name.text ++ ':' :: (' ' :: (type ++ (gap ++ c :: rest)))))
      [(.type, type), (.name, name.text)] := by
  have listed : ∀ d, oneOf ['=', ';'] d = true → d ∈ ['=', ';'] ∧ Text.isBlank d = false := by
    intro d isEnd
    have member : d ∈ ['=', ';'] := by simpa [oneOf] using isEnd
    exact ⟨member, (by decide : ∀ d ∈ ['=', ';'], Text.isBlank d = false) d member⟩
  have outside : ∀ d ∈ type, oneOf ['=', ';'] d = false := by
    intro d member
    have different : d ≠ '=' ∧ d ≠ ';' :=
      ⟨fun same => isType.unassigned (same ▸ member), fun same => unended (same ▸ member)⟩
    simpa [oneOf] using different
  have inside : ∀ d ∈ type, noneOf ['=', ';'] d = true :=
    fun d member => by simpa [oneOf, noneOf] using outside d member
  have stop : oneOf ['=', ';'] c = true := by simpa [oneOf] using ends
  have stuck : ¬(one (oneOf ['=', ';'])).Passes Text.isBlank := by
    rintro ⟨d, isEnd, blank⟩
    rw [(listed d isEnd).2] at blank
    cases blank
  have start :=
    (((((takes_lineStart _ []).append (takes_literal "let".toList _ _ _)).append
      (name.takes_space _ _ _)).append
    (takes_optional_nothing (mutMark_blocked name _ (' ' :: (type ++ (gap ++ c :: rest))))
      [])).append
    ((name.takes_word (stops_before (by decide) _) _ _).capture .name)).append
    (takes_blanks_nil (stops_before (by decide) _) _ _)
  have typed := fun before captures => takes_type_up_to isType before captures inside stuck
    (fun d member _ => by simp [outside d member]) blankGap (listed c stop).2
      (fun before captures => takes_one stop before rest captures)
  exact (start.append (typed _ _).assoc.assoc.optionalThen).assoc.assoc.finds

/-- The type of a constant: only a sign of an assignment ends it. -/
theorem takes_type_up_to_assign (before : List Char) (captures : Captures) :
    (char ':' ++ (blanks ++ (capture .type (few1 (noneOf ['='])) ++ (blanks ++ char '=')))).Takes
      ⟨before, ':' :: (' ' :: (type ++ (gap ++ '=' :: rest)))⟩
      ⟨'=' :: (gap.reverse ++ (type.reverse ++ (' ' :: ':' :: before))), rest⟩ captures
        ((.type, type) :: captures) := by
  have different : ∀ c ∈ type, c ≠ '=' := fun c member same => isType.unassigned (same ▸ member)
  have inside : ∀ c ∈ type, noneOf ['='] c = true :=
    fun c member => by simpa [noneOf] using different c member
  have unmet : ∀ c ∈ type, Text.isBlank c = false → ¬(char '=').Meets Text.isBlank c := by
    intro c member _
    simpa using fun _ same => different c member (Eq.symm same)
  exact takes_type_up_to isType before captures inside (by simp; decide) unmet blankGap (by decide)
    fun before captures => takes_literal ['='] before rest captures

theorem constants_finds :
    constants.pattern.Finds
      ("const".toList ++ ' ' :: (name.text ++ ':' :: (' ' :: (type ++ (gap ++ '=' :: rest)))))
      [(.type, type), (.name, name.text)] := by
  have unmarked := takes_itemStart_of_first (c := 'c') (by decide)
    ("onst".toList ++ ' ' :: (name.text ++ ':' :: (' ' :: (type ++ (gap ++ '=' :: rest)))))
  have start :=
    (((unmarked.append (takes_literal "const".toList _ _ _)).append (name.takes_space _ _ _)).append
    ((name.takes_word (stops_before (by decide) _) _ _).capture .name)).append
      (takes_blanks_nil (stops_before (by decide) _) _ _)
  exact (start.append (takes_type_up_to_assign isType blankGap
    rest _ _)).assoc.assoc.assoc.assoc.finds

theorem statics_finds :
    statics.pattern.Finds
      ("static".toList ++ ' ' :: (name.text ++ ':' :: (' ' :: (type ++ (gap ++ '=' :: rest)))))
      [(.type, type), (.name, name.text)] := by
  have unmarked := takes_itemStart_of_first (c := 's') (by decide)
    ("tatic".toList ++ ' ' :: (name.text ++ ':' :: (' ' :: (type ++ (gap ++ '=' :: rest)))))
  have start :=
    ((((unmarked.append (takes_literal "static".toList _ _ _)).append
      (name.takes_space _ _ _)).append
    (takes_optional_nothing ((mutMark_blocked name _ _).capture .modifier) [])).append
    ((name.takes_word (stops_before (by decide) _) _ _).capture .name)).append
      (takes_blanks_nil (stops_before (by decide) _) _ _)
  exact (start.append (takes_type_up_to_assign isType blankGap
    rest _ _)).assoc.assoc.assoc.assoc.finds

end Typed

theorem field_finds (name type : AsciiWord) :
    field.pattern.Finds (name.typed type "" ",") [(.type, type.text), (.name, name.text)] := by
  change field.pattern.Finds (name.text ++ ':' :: (' ' :: (type.text ++ ',' :: []))) _
  have isPrivate :
      publicMark.Blocked ⟨[], name.text ++ ':' :: (' ' :: (type.text ++ ',' :: []))⟩ := by
    refine name.blocked_of_break ?_ (by decide) ?_ _ _
    · simp [publicMark, Text.not_exists_blank_word]
    · simp +decide [publicMark]
  have inside : ∀ c ∈ type.text, noneOf [',', '{', '}'] c = true := type.noneOf_eq_true (by decide)
  have inType : ∀ c ∈ type.text, ∀ before others,
      (blanks ++ (optional (char ',') ++ lineEnd)).Blocked ⟨before, c :: others⟩ := by
    intro c member before others
    have noComma : ',' ≠ c := fun same => type.not_mem (by decide) (same ▸ member)
    have unmet : ¬(blanks ++ optional (char ',')).Meets (fun _ => false) c := by
      simp [type.isBlank c member, noComma]
    exact (blocked_before_lineEnd unmet before others).assoc
  have comma : (optional (char ',') ++ lineEnd).Takes
      ⟨type.text.reverse ++ (' ' :: ':' :: (name.text.reverse ++ [])), ',' :: []⟩
        _ [(.type, type.text), (.name, name.text)]
      [(.type, type.text), (.name, name.text)] :=
    .optionalThen ((takes_literal [','] _ [] _).append (takes_lineEnd _ _))
  have start :=
    ((takes_itemStart isPrivate).append
      ((name.takes_word (stops_before (by decide) _) _ _).capture .name)).append
    (takes_blanks_nil (stops_before (by decide) _) _ _)
  have typed :=
    takes_type (isTypeText type) _ _ inside
      (fun taken left split nonempty => type.blocked_inside inType split nonempty)
    ((takes_blanks_nil (stops_before (by decide) _) _ _).append comma)
  exact (start.append typed).assoc.assoc.assoc.assoc.assoc.finds

/-- The only such word that a line with `const` in front of a name starts with is that one. -/
theorem eq_of_reads_qualifier (name : Word) {before text rest others : List Char}
    {captures kept : Captures}
    (split : "const".toList ++ ' ' :: (name.text ++ others) = text ++ rest)
    (reads : qualifier.Reads before text rest captures kept) : rest = name.text ++ others := by
  obtain ⟨keyword, gap, _, rfl, readKeyword, ⟨_, _, _, rfl, ⟨⟨d, rfl, blank⟩, _⟩, ⟨inside, _⟩⟩⟩ :=
    reads
  have isConst : keyword = "const".toList := by
    rcases readKeyword with (⟨rfl, _⟩ | ⟨rfl, _⟩ | ⟨rfl, _⟩ | ⟨rfl, _⟩) | ⟨_, _, _, rfl,
      ⟨rfl, _⟩, _⟩
    · simp at split
    · rfl
    · simp at split
    · simp at split
    · simp at split
  subst isConst
  rw [List.append_assoc] at split
  have gapSplit := List.append_cancel_left split
  exact (name.blank_run gapSplit (by simp) (List.forall_mem_cons.mpr ⟨blank, inside⟩)).2

/-- A constant is not taken for a constant function: its name is followed by a colon. -/
theorem function_find?_const (name : Word) (rest : List Char) :
    function.pattern.find? ("const".toList ++ ' ' :: (name.text ++ ':' :: rest)) = none := by
  have anchored : function.pattern.Anchored := trivial
  have isPrivate : publicMark.Blocked ⟨[], "const".toList ++ ' ' :: (name.text ++ ':' :: rest)⟩ :=
    blocked_of_next (c := 'c') (by simp [publicMark]) (by simp [publicMark]) _ _
  have notHere : (text "fn" ++ (blanks1 ++ capture .name word)).Blocked
      ⟨[], "const".toList ++ ' ' :: (name.text ++ ':' :: rest)⟩ :=
    blocked_of_next (c := 'c') (by simp) (by simp) _ _
  have qualified : (repeated qualifier ++ (text "fn" ++ (blanks1 ++ capture .name word))).Blocked
      ⟨[], "const".toList ++ ' ' :: (name.text ++ ':' :: rest)⟩ := by
    refine blocked_repeatedThen notHere fun text others captures kept split reads => ?_
    cases eq_of_reads_qualifier name split reads
    refine ⟨name.blocked_of_break ?_ (by decide) ?_ _ _,
      name.blocked_of_break ?_ (by decide) ?_ _ _⟩
    · simp [qualifier, Text.not_exists_blank_word]
    · simp [qualifier, anyText, Text.not_exists_blank_word, isBlank_colon]
    · simp [Text.not_exists_blank_word]
    · simp [Text.not_exists_blank_word, isBlank_colon]
  exact anchored.find?_eq_none (Blocked.lineStartThen (isPrivate.optionalThen qualified))

/-!
## Steps
-/

private theorem returnType?_eq_none {line : List Char} (absent : '-' ∉ line) :
    returnType? line = none := by
  have uncut : Text.cut? "->".toList line = none := by
    cases cut : Text.cut? "->".toList line with
    | none => rfl
    | some pieces =>
      have whole := Text.append_of_cut? cut
      exact absurd (by rw [whole]; simp) absent
  rw [returnType?, uncut]
  rfl

/-- The rule that decides, among those of the table. -/
theorem step_of_finds {line : List Char} {number : Nat} {context : Context} (count : Nat)
    (rule : Rule) (later : List Rule)
    (cascade : table.cascade = table.cascade.take count ++ rule :: later) {kept : Captures}
    (finds : rule.pattern.Finds line kept)
    (unmatched : ∀ other ∈ table.cascade.take count, other.pattern.find? line = none)
    {effect : Effect} (outcome : rule.effect? kept line context = some effect)
    (claims : effect.claims = true) (noClosing : '}' ∉ line) :
    context.step .rust ⟨number, line⟩ = context.apply .rust number effect := by
  have inRules : Language.rust.rules.cascade = table.cascade.take count ++ rule :: later := cascade
  exact Context.step_of_claims_unchecked rfl (table.cascade.take count) rule later inRules unmatched
    finds outcome claims
    noClosing

theorem step_function (name : AsciiWord) (number : Nat) (context : Context) :
    context.step .rust ⟨number, name.between "fn " "() \x7b"⟩ =
      context.apply .rust number
        { declarations := [
            { name := name.name, kind := if context.scopes.currentKind = .implementation
              then .method else .function,
              scope := context.scopes.current }]
          opens := [⟨name.name, .function⟩] } := by
  have finds : function.pattern.Finds (name.between "fn " "() \x7b") [(.name, name.text)] :=
    function_finds name.toWord (by decide)
  refine step_of_finds 1 function (table.cascade.drop 2) rfl finds
    (find?_of_leadingLetter (c := 'f') (by decide) _) ?_ rfl
      (name.not_mem_between (by decide) (by decide) (by decide))
  have noArrow : returnType? (name.between "fn " "() \x7b") = none :=
    returnType?_eq_none (name.not_mem_between (by decide) (by decide) (by decide))
  change some ({ declarations := (Declaration.of? context.scopes.current
                   (if context.scopes.currentKind = .implementation then .method
                     else .function) name.text
                   (returnType? (name.between "fn " "() \x7b"))).toList
                 opens :=
                   Scope.openedIf (opensScope (name.between "fn " "() \x7b")) name.text
                     .function } : Effect) = _
  rw [noArrow, name.declaration_of?, name.scope_openedIf (name.opensScope_between (by decide))]
  rfl

theorem step_module (name : AsciiWord) (number : Nat) (context : Context) :
    context.step .rust ⟨number, name.between "mod " " \x7b"⟩ =
      context.apply .rust number { declarations := [], opens := [⟨name.name, .module⟩] } := by
  refine step_of_finds 6 modules (table.cascade.drop 7) rfl (modules_finds name)
    (find?_of_leadingLetter (c := 'm') (by decide) _) ?_ rfl
      (name.not_mem_between (by decide) (by decide) (by decide))
  change some
    ({ opens := Scope.openedIf (opensBlock (name.between "mod " " \x7b")) name.text .module } :
      Effect) = _
  rw [name.scope_openedIf (name.opensBlock_between (by decide))]

theorem step_implementation (name : AsciiWord) (number : Nat) (context : Context) :
    context.step .rust ⟨number, name.between "impl " " \x7b"⟩ =
      context.apply .rust number
        { declarations := [], opens := [⟨name.name, .implementation⟩] } := by
  refine step_of_finds 2 implementation (table.cascade.drop 3) rfl (implementation_finds name)
    (find?_of_leadingLetter (c := 'i') (by decide) _) ?_ rfl
      (name.not_mem_between (by decide) (by decide) (by decide))
  have isOpen :
      (!endsIn (name.between "impl " " \x7b") '}' || opensBlock (name.between "impl " " \x7b")) =
        true := by
    rw [name.opensBlock_between (by decide), Bool.or_true]
  change some ({ opens := Scope.openedIf (!endsIn (name.between "impl " " \x7b") '}' ||
    opensBlock (name.between "impl " " \x7b"))
                   name.text .implementation } : Effect) = _
  rw [name.scope_openedIf isOpen]

theorem step_trait (name : AsciiWord) (number : Nat) (context : Context) :
    context.step .rust ⟨number, name.between "trait " " \x7b"⟩ =
      context.apply .rust number
        { declarations := [
            { name := name.name, kind := .classType, scope := context.scopes.current,
              dataType := "trait",
              description := "Trait definition" }]
          opens := [⟨name.name, .implementation⟩] } := by
  refine step_of_finds 3 traits (table.cascade.drop 4) rfl (traits_finds name)
    (find?_of_leadingLetter (c := 't') (by decide) _) ?_ rfl
      (name.not_mem_between (by decide) (by decide) (by decide))
  change some ({ declarations :=
    (Declaration.of? context.scopes.current .classType name.text "trait".toList
                   "Trait definition").toList
                 opens :=
                   Scope.openedIf (opensScope (name.between "trait " " \x7b")) name.text
                     .implementation } : Effect) = _
  rw [name.declaration_of?, name.scope_openedIf (name.opensScope_between (by decide))]
  rfl

theorem step_structure (name : AsciiWord) (number : Nat) (context : Context) :
    context.step .rust ⟨number, name.between "struct " " \x7b"⟩ =
      context.apply .rust number
        { declarations := [{ name := name.name, kind := .classType, scope := context.scopes.current, dataType := "struct" }]
          opens := [⟨name.name, .classType⟩] } := by
  refine step_of_finds 4 structures (table.cascade.drop 5) rfl (structures_finds name)
    (find?_of_leadingLetter (c := 's') (by decide) _) ?_ rfl
      (name.not_mem_between (by decide) (by decide) (by decide))
  have isOpen :
      (!endsIn (name.between "struct " " \x7b") ';' &&
        (opensBlock (name.between "struct " " \x7b") ||
      !(name.between "struct " " \x7b").contains '{')) = true := by
    have last : (name.between "struct " " \x7b").getLast? = some '{' := by
      rw [AsciiWord.between, List.getLast?_append]
      rfl
    rw [name.opensBlock_between (by decide), endsIn, last]
    rfl
  change some ({ declarations :=
    (Declaration.of? context.scopes.current .classType name.text "struct".toList).toList
                 opens := Scope.openedIf (!endsIn (name.between "struct " " \x7b") ';' &&
                   (opensBlock (name.between "struct " " \x7b") ||
                     !(name.between "struct " " \x7b").contains '{'))
                   name.text .classType } : Effect) = _
  rw [name.declaration_of?, name.scope_openedIf isOpen]
  rfl

theorem step_variable (name type : AsciiWord) (named : name.text ≠ ['_']) (number : Nat)
    (context : Context) :
    context.step .rust ⟨number, name.typed type "let " " = 0;"⟩ =
      context.apply .rust number
        { declarations := [
            { name := name.name, kind := .variable, scope := context.scopes.current,
              dataType := type.name }] } := by
  have finds :
      plainVariables.pattern.Finds (name.typed type "let " " = 0;")
        [(.type, type.text), (.name, name.text)] :=
    plainVariables_finds name.toWord (isTypeText type) Text.isBlank_space " 0;".toList
      (type.not_mem (by decide)) (.head _)
  refine step_of_finds 7 plainVariables (table.cascade.drop 8) rfl finds
    (find?_of_leadingLetter (c := 'l') (by decide) _) ?_ rfl
      (name.not_mem_typed (by decide) (by decide) (by decide) (by decide))
  change (if name.text = ['_'] then some Effect.nothing else
    some
      ({ declarations := (Declaration.of? context.scopes.current .variable name.text
        type.text).toList } : Effect)) = _
  rw [if_neg named, name.declaration_of?, Option.bind_some, type.cleanName?_text]
  rfl

theorem find?_const (name : Word) (rest : List Char) :
    ∀ rule ∈ table.cascade.take 10,
      rule.pattern.find? ("const".toList ++ ' ' :: (name.text ++ ':' :: rest)) = none := by
  have others : ∀ rule ∈ imports :: (table.cascade.take 10).drop 2,
      rule.pattern.find? ("const".toList ++ ' ' :: (name.text ++ ':' :: rest)) = none := by
    intro rule member
    have inTable : rule ∈ table.cascade := by
      rcases List.mem_cons.mp member with rfl | later
      · exact List.mem_cons_self
      · exact List.mem_of_mem_take (List.mem_of_mem_drop later)
    exact find?_of_first (c := 'c') inTable (unmet_c rule member) _
  obtain ⟨noImport, below⟩ := List.forall_mem_cons.mp others
  exact List.forall_mem_cons.mpr
    ⟨noImport, List.forall_mem_cons.mpr ⟨function_find?_const name _, below⟩⟩

theorem step_constant (name type : AsciiWord) (number : Nat) (context : Context) :
    context.step .rust ⟨number, name.typed type "const " " = 0;"⟩ =
      context.apply .rust number
        { declarations := [
            { name := name.name, kind := .constant, scope := context.scopes.current,
              dataType := type.name }] } := by
  have finds :
      constants.pattern.Finds (name.typed type "const " " = 0;")
        [(.type, type.text), (.name, name.text)] :=
    constants_finds name.toWord (isTypeText type) Text.isBlank_space " 0;".toList
  refine step_of_finds 10 constants (table.cascade.drop 11) rfl finds
    (find?_const name.toWord _) ?_ rfl
    (name.not_mem_typed (by decide) (by decide) (by decide) (by decide))
  change some (Effect.ofDeclarations
    (Declaration.of? context.scopes.current .constant name.text type.text).toList) = _
  rw [name.declaration_of?, Option.bind_some, type.cleanName?_text]
  rfl

theorem step_field (name type : AsciiWord) (number : Nat) {context : Context}
    (inside : context.scopes.currentKind = .classType) :
    context.step .rust ⟨number, name.typed type "" ","⟩ =
      context.apply .rust number
        { declarations := [
            { name := name.name, kind := .property, scope := context.scopes.owner,
              dataType := type.name }] } := by
  refine step_of_finds 11 field [] rfl (field_finds name type) (find?_field name _) ?_ rfl
    (name.not_mem_typed (by decide) (by decide) (by decide) (by decide))
  change (if context.scopes.currentKind ≠ .classType then none else
    some (Effect.ofDeclarations (Declaration.of? context.scopes.owner .property name.text
      type.text).toList)) = _
  rw [if_neg (not_not.mpr inside), name.declaration_of?, Option.bind_some, type.cleanName?_text]
  rfl

end Rules.Rust

end Symtab
