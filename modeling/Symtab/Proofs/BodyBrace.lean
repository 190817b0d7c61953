import Symtab.Proofs.Extension
import Symtab.Rules

/-!
# The brace behind a header

A line without a brace that does not end in a semicolon reads the same to every rule for Java and
for C as the line with the opening brace of a body behind it. Rules that ask for the end of the line
allow for the brace, and both ways to tell that a body is left open agree.
-/

set_option autoImplicit false

namespace Symtab

/-- A line that a body can follow. -/
structure IsHeader (line : List Char) : Prop where
  ends : ∃ start c, line = start ++ [c] ∧ Text.isBlank c = false ∧ c ≠ ';'
  noOpening : '{' ∉ line
  noClosing : '}' ∉ line

/-- The opening brace of a body, behind the line that it belongs to. -/
def bodyBrace : List Char := [' ', '{']

private theorem edge_bodyBrace : ∀ c ∈ bodyBrace.head?, Text.isWord c = false := by
  decide

namespace IsHeader

variable {header : List Char} (isHeader : IsHeader header)

include isHeader

theorem of_suffix {start rest : List Char} (split : header = start ++ rest) (nonempty : rest ≠ []) :
    IsHeader rest where
  ends := by
    obtain ⟨before, c, ends, blank, semicolon⟩ := isHeader.ends
    obtain ⟨middle, d, rfl⟩ := (List.eq_nil_or_concat rest).resolve_left nonempty
    rw [ends, List.concat_eq_append, ← List.append_assoc] at split
    obtain ⟨rfl⟩ := List.append_inj_right' split rfl
    exact ⟨middle, c, List.concat_eq_append, blank, semicolon⟩
  noOpening :=
    fun member => isHeader.noOpening (by rw [split]; exact List.mem_append_right start member)
  noClosing :=
    fun member => isHeader.noClosing (by rw [split]; exact List.mem_append_right start member)

theorem ne_nil : header ≠ [] := by
  obtain ⟨start, c, rfl, _⟩ := isHeader.ends
  simp

private theorem blanks_ne {gap : List Char} (blank : ∀ c ∈ gap, Text.isBlank c = true)
    (more : List Char) : gap ≠ header ++ more := by
  rintro rfl
  obtain ⟨start, c, rfl, notBlank, _⟩ := isHeader.ends
  have blankLast := blank c (by simp)
  rw [notBlank] at blankLast
  cases blankLast

private theorem ne_append_semicolon (text : List Char) : header ≠ text ++ [';'] := by
  obtain ⟨start, c, rfl, _, notSemicolon⟩ := isHeader.ends
  intro same
  obtain ⟨rfl⟩ := List.append_inj_right' same rfl
  exact notSemicolon rfl

theorem opensScope : Symtab.opensScope header = true := by
  obtain ⟨start, c, rfl, _, semicolon⟩ := isHeader.ends
  have noOpening : (start ++ [c]).contains '{' = false := by
    simpa [List.contains_eq_mem] using isHeader.noOpening
  have noEnd : endsIn (start ++ [c]) ';' = false := by simpa [endsIn] using semicolon
  rw [Symtab.opensScope, noOpening, noEnd]
  simp

theorem opensBlock : Symtab.opensBlock header = false := by
  simp [Symtab.opensBlock, List.count_eq_zero.mpr isHeader.noOpening]

private theorem opensBlock_append : Symtab.opensBlock (header ++ bodyBrace) = true := by
  simp [Symtab.opensBlock, bodyBrace, List.count_append, List.count_eq_zero.mpr isHeader.noClosing]

private theorem opensScope_append : Symtab.opensScope (header ++ bodyBrace) = true := by
  rw [Symtab.opensScope, isHeader.opensBlock_append, Bool.true_or]

end IsHeader

private theorem hasWord_append_bodyBrace (line : List Char) {word : String} (nonempty : word ≠ "") :
    hasWord (line ++ bodyBrace) word = hasWord line word := by
  have split : (line ++ bodyBrace).splitOnP (!Text.isIdentifierChar ·) =
      line.splitOnP (!Text.isIdentifierChar ·) ++ [[], []] :=
    List.splitOnP_append_cons line ['{'] (by decide)
  have written : word.toList ≠ [] := fun same => nonempty (String.toList_eq_nil_iff.mp same)
  rw [hasWord, split, hasWord]
  simp [written]

/-- The head of a declaration with a value is the same, and that of one without a value is just
longer by the brace. -/
theorem declarationHead_append_bodyBrace (line : List Char) :
    declarationHead (line ++ bodyBrace) = declarationHead line ∨
      declarationHead (line ++ bodyBrace) = declarationHead line ++ bodyBrace := by
  rw [declarationHead, declarationHead, List.takeWhile_append]
  split
  · next whole =>
    have same : line.takeWhile (· != '=') = line := (List.takeWhile_prefix _).eq_of_length whole
    exact .inr (by rw [same]; rfl)
  · exact .inl rfl

private theorem hasWord_declarationHead_bodyBrace (line : List Char) (word : String)
    (nonempty : word ≠ "") :
    hasWord (declarationHead (line ++ bodyBrace)) word = hasWord (declarationHead line) word := by
  rcases declarationHead_append_bodyBrace line with same | longer
  · rw [same]
  · rw [longer, hasWord_append_bodyBrace _ nonempty]

private theorem contains_declarationHead_bodyBrace (line : List Char) :
    (declarationHead (line ++ bodyBrace)).contains '(' = (declarationHead line).contains '(' := by
  rcases declarationHead_append_bodyBrace line with same | longer
  · rw [same]
  · rw [longer]
    simp [bodyBrace]

/-!
## Rules
-/

namespace Rule

variable {rule : Rule} {line other : List Char}

/-- Two lines in which a rule finds matches with the same view, where only the view matters for what
it does. -/
theorem tryLine_congr {β : Type} {otherView view : Captures → β} {context : Context}
    (found : (rule.pattern.find? other).map (fun found => otherView found.captures) =
      (rule.pattern.find? line).map fun found => view found.captures)
    (effects : ∀ kept inside, otherView kept = view inside →
      rule.effect? kept other context = rule.effect? inside line context)
    (language : Language) (number : Nat) :
    rule.tryLine language number other context = rule.tryLine language number line context := by
  unfold tryLine
  cases inOther : rule.pattern.find? other with
  | none =>
    cases inLine : rule.pattern.find? line with
    | none => rfl
    | some second => simp [inOther, inLine] at found
  | some first =>
    cases inLine : rule.pattern.find? line with
    | none => simp [inOther, inLine] at found
    | some second =>
      have same : otherView first.captures = view second.captures := by
        simpa [inOther, inLine] using found
      simp only [tryMatch, effects _ _ same]

/-- The rule treats a header alike with and without the brace behind it. -/
def IgnoresBrace (rule : Rule) : Prop :=
  ∀ header, IsHeader header → ∀ language number context,
    rule.tryLine language number (header ++ bodyBrace) context =
      rule.tryLine language number header context

private theorem ignoresBrace_of_endsBefore (ends : rule.pattern.EndsBefore bodyBrace)
    (effects : ∀ header, IsHeader header → ∀ kept context,
      rule.effect? kept (header ++ bodyBrace) context = rule.effect? kept header context) :
        rule.IgnoresBrace := by
  intro header isHeader language number context
  have found : (rule.pattern.find? (header ++ bodyBrace)).map (fun found => id found.captures) =
      (rule.pattern.find? header).map fun found => id found.captures := ends.find?_append header
  refine tryLine_congr found ?_ language number
  rintro kept inside rfl
  exact effects header isHeader kept context

private theorem ignoresBrace_of_unmatched
    (unmatched : ∀ header, IsHeader header →
      rule.pattern.find? header = none ∧ rule.pattern.find? (header ++ bodyBrace) = none) :
        rule.IgnoresBrace := by
  intro header isHeader language number context
  obtain ⟨inHeader, inLonger⟩ := unmatched header isHeader
  simp only [tryLine, inHeader, inLonger]

end Rule

/-!
## Patterns that ask for the end of the line
-/

namespace Pattern

/-- A tail that reads the rest of a header with and without the brace, after a head that ends before
the brace. -/
theorem find?_append_of_tail {head : Pattern} (tail : Pattern) (ends : head.EndsBefore bodyBrace)
    {pattern : Pattern}
    (anchored : pattern.Anchored)
    (parts : ∀ (β : Type) place captures (next : Continuation β),
      pattern.read place captures next = head.read place captures fun later kept =>
        tail.read later kept next)
    {β : Type} {longer view : Captures → β} {header : List Char}
    (agree : ∀ text rest kept, header = text ++ rest → head.Reads [] text rest [] kept →
      (tail.read ⟨text.reverse, rest ++ bodyBrace⟩ kept fun _ kept => some (longer kept)) =
        tail.read ⟨text.reverse, rest⟩ kept fun _ kept => some (view kept)) :
    (pattern.find? (header ++ bodyBrace)).map (fun found => longer found.captures) =
      (pattern.find? header).map fun found => view found.captures := by
  rw [anchored.find?_eq_matchAt?, anchored.find?_eq_matchAt?, matchAt?_map, matchAt?_map,
    parts, parts]
  refine (ends.same _ ⟨[], header⟩ []).trans ?_
  refine read_congr head _ _ _ _ fun text rest kept split reads => ?_
  rw [List.append_nil]
  exact agree text rest kept split reads

/-- The end of a line with nothing but white space, or with a body or a semicolon after it. -/
def bodyTail (body : Pattern) : Pattern :=
  blanks ++ optional body ++ lineEnd

section BodyTail

variable {body : Pattern}
  (shape : ∀ before text rest captures kept, body.Reads before text rest captures kept →
    text = [';'] ∨ ∃ inside, text = '{' :: inside)

include shape

private theorem bodyTail_reads {before text others : List Char} {captures kept : Captures}
    (reads : (bodyTail body).Reads before text others captures kept) :
    others = [] ∧ ∃ gap finish, text = gap ++ finish ∧ (∀ c ∈ gap, Text.isBlank c = true) ∧
      (finish = [] ∨ finish = [';'] ∨ ∃ inside, finish = '{' :: inside) := by
  obtain ⟨_, _, _, rfl, ⟨gap, finish, _, rfl, ⟨blank, _⟩, readBody⟩, ⟨⟨rfl, rfl⟩, _⟩⟩ := reads
  refine ⟨rfl, gap, finish, by simp, blank, ?_⟩
  rcases readBody with readBody | ⟨rfl, _⟩
  · exact .inr (shape _ _ _ _ _ readBody)
  · exact .inl rfl

private theorem bodyTail_blocked {rest : List Char} (isHeader : IsHeader rest)
    (before : List Char) :
    (bodyTail body).Blocked ⟨before, rest⟩ ∧
    (bodyTail body).Blocked ⟨before, rest ++ bodyBrace⟩ := by
  constructor
  · refine blocked_of_not_reads fun text others captures kept split reads => ?_
    obtain ⟨rfl, gap, finish, rfl, blank, finishes⟩ := bodyTail_reads shape reads
    rw [List.append_nil] at split
    rcases finishes with rfl | rfl | ⟨inside, rfl⟩
    · exact isHeader.blanks_ne blank [] (by simpa using split.symm)
    · exact isHeader.ne_append_semicolon gap split
    · exact isHeader.noOpening (by rw [split]; simp)
  · refine blocked_of_not_reads fun text others captures kept split reads => ?_
    obtain ⟨rfl, gap, finish, rfl, blank, finishes⟩ := bodyTail_reads shape reads
    rw [List.append_nil] at split
    rcases finishes with rfl | rfl | ⟨inside, rfl⟩
    · exact isHeader.blanks_ne blank bodyBrace (by simpa using split.symm)
    · have last := congrArg List.getLast? split
      simp [bodyBrace] at last
    · -- The white space would have to reach over the header, or the header to hold the brace.
      rcases List.append_eq_append_iff.mp split with ⟨middle, gapLonger, _⟩ | ⟨middle,
        headerLonger, braces⟩
      · exact isHeader.blanks_ne blank middle gapLonger
      · cases middle with
        | nil => exact isHeader.blanks_ne blank [] (by simpa using headerLonger.symm)
        | cons d others =>
          obtain ⟨rfl, _⟩ := List.cons.inj braces
          exact isHeader.noOpening (by rw [headerLonger]; simp)

end BodyTail

private theorem read_bodyTail_nil {body : Pattern} (stuck : ¬body.Passes fun _ => false) {β : Type}
    (view : Captures → β) (before : List Char) (kept : Captures) :
    ((bodyTail body).read ⟨before, []⟩ kept fun _ kept => some (view kept)) = some (view kept) := by
  have gap : blanks.Takes ⟨before, []⟩ ⟨before, []⟩ kept kept :=
    takes_blanks_nil (by simp) before kept
  exact ((gap.append (takes_optional_nothing (blocked_at_end stuck before) kept)).append
    (takes_lineEnd before kept)) _ _ _ rfl

private theorem read_bodyTail_brace {body : Pattern} {before : List Char} {kept inside : Captures}
    (taken : body.Takes ⟨' ' :: before, ['{']⟩ ⟨'{' :: ' ' :: before, []⟩ kept inside) {β : Type}
    (view : Captures → β) :
    ((bodyTail body).read ⟨before, bodyBrace⟩ kept fun _ kept => some (view kept)) =
      some (view inside) := by
  have gap : blanks.Takes ⟨before, bodyBrace⟩ ⟨' ' :: before, ['{']⟩ kept kept :=
    takes_blanks_space (by decide) before kept
  exact ((gap.append taken.optionally).append (takes_lineEnd _ inside)) _ _ _ rfl

/-- With the brace there is a body where there was the end of the line, and anywhere else there is
neither. -/
theorem read_bodyTail_append {body : Pattern} (stuck : ¬body.Passes fun _ => false)
    (shape : ∀ before text rest captures kept, body.Reads before text rest captures kept →
      text = [';'] ∨ ∃ inside, text = '{' :: inside)
    {header text rest : List Char} (isHeader : IsHeader header) (split : header = text ++ rest)
      {kept inside : Captures}
    (taken : body.Takes ⟨' ' :: text.reverse, ['{']⟩ ⟨'{' :: ' ' :: text.reverse, []⟩ kept inside)
      {β : Type}
    {longer view : Captures → β} (same : longer inside = view kept) :
    ((bodyTail body).read ⟨text.reverse, rest ++ bodyBrace⟩ kept fun _ kept => some (longer kept)) =
      (bodyTail body).read ⟨text.reverse, rest⟩ kept fun _ kept => some (view kept) := by
  cases rest with
  | nil =>
    exact (read_bodyTail_brace taken longer).trans
      ((congrArg some same).trans (read_bodyTail_nil stuck view _ kept).symm)
  | cons c others =>
    obtain ⟨blocked, longerBlocked⟩ :=
      bodyTail_blocked shape (isHeader.of_suffix split (by simp)) text.reverse
    rw [blocked, longerBlocked]

private theorem find?_eq_none_of_lastSign {front : Pattern} {c : Char} {line : List Char}
    (other : line.getLast? ≠ some c) :
    (front ++ char c ++ lineEnd).find? line = none := by
  cases matched : (front ++ char c ++ lineEnd).find? line with
  | none => rfl
  | some found =>
    obtain ⟨before, _, rest, _, rfl,
      ⟨_, _, _, rfl, ⟨start, _, _, rfl, _, ⟨rfl, _⟩⟩, ⟨⟨rfl, rfl⟩, _⟩⟩, _⟩ :=
      isMatch_of_find? matched
    simp at other

private theorem endsBefore_char {c : Char} (apart : c ∉ bodyBrace) :
    (char c).EndsBefore bodyBrace :=
  endsBefore_literal (List.cons_ne_nil c []) (by simpa using apart)

end Pattern

private theorem macroDefinition_ignoresBrace : Rules.macroDefinition.IgnoresBrace := by
  refine Rule.ignoresBrace_of_endsBefore ?_ fun _ _ _ _ => rfl
  exact ((Pattern.endsBefore_many1 (by decide)).capture .name).prepend edge_bodyBrace (by simp)

/-!
## Rules for C
-/

namespace Rules.C

open Pattern

def functionHead : Pattern :=
  lineStart ++ capture .head (repeated1 (one isAsciiNameStart ++ many (wordOr ['*']) ++ blanks1)) ++
    many (oneOf ['*']) ++ capture .name word ++ blanks ++ char '(' ++
      capture .parameters (many (noneOf [')'])) ++ char ')'

def functionBody : Pattern :=
  capture .tail (openBody <|> char ';')

private theorem function_read (β : Type) (place : Cursor) (captures : Captures)
    (next : Continuation β) :
    function.pattern.read place captures next =
      functionHead.read place captures fun later kept =>
        (bodyTail functionBody).read later kept next := rfl

private theorem takes_openBody (before : List Char) (captures : Captures) :
    openBody.Takes ⟨before, ['{']⟩ ⟨'{' :: before, []⟩ captures captures :=
  (takes_literal ['{'] before [] captures).append (takes_many_nil (by simp) _ captures)

private theorem openBody_shape {before text rest : List Char} {captures kept : Captures}
    (reads : openBody.Reads before text rest captures kept) : ∃ inside, text = '{' :: inside := by
  obtain ⟨_, inside, _, rfl, ⟨rfl, _⟩, _⟩ := reads
  exact ⟨inside, rfl⟩

private theorem functionBody_shape (before text rest : List Char) (captures kept : Captures)
    (reads : functionBody.Reads before text rest captures kept) :
    text = [';'] ∨ ∃ inside, text = '{' :: inside := by
  obtain ⟨_, readBody | ⟨rfl, _⟩, _⟩ := reads
  · exact .inr (openBody_shape readBody)
  · exact .inl rfl

-- What the rule does with a reading: the second form is for a line with the brace, which closes the
-- reading.
def openReading (kept : Captures) : Option (List Char) × Option (List Char) × Bool :=
  (kept.text? .head, kept.text? .name, !kept.has .tail)

def bracedReading (kept : Captures) : Option (List Char) × Option (List Char) × Bool :=
  (kept.text? .head, kept.text? .name, true)

private theorem bracedReading_eq {text rest : List Char} {kept : Captures}
    (reads : functionHead.Reads [] text rest [] kept) :
    bracedReading ((.tail, ['{']) :: kept) = openReading kept := by
  have keeps : functionHead.Keeps .tail fun _ => False := by simp [functionHead]
  have noTail : kept.has .tail = false := by
    cases present : kept.text? .tail with
    | none => rw [Captures.has, present]; rfl
    | some part =>
      exact ((reads.keeps keeps part (Captures.mem_of_text? present)).elim (by simp) id).elim
  rw [openReading, noTail]
  rfl

private theorem function_ignoresBrace : function.IgnoresBrace := by
  intro header isHeader language number context
  have anchored : function.pattern.Anchored := trivial
  have headEnds : functionHead.EndsBefore bodyBrace :=
    (endsBefore_char (by decide)).prepend edge_bodyBrace (by simp [repeated1, Text.isBlank])
  have found :
      (function.pattern.find? (header ++ bodyBrace)).map
        (fun found => bracedReading found.captures) =
      (function.pattern.find? header).map fun found => openReading found.captures := by
    refine find?_append_of_tail (bodyTail functionBody) headEnds anchored function_read
      fun text rest kept split reads => ?_
    have taken :
        (openBody <|> char ';').Takes ⟨' ' :: text.reverse, ['{'] ++ []⟩
          ⟨'{' :: ' ' :: text.reverse, []⟩ kept kept :=
      (takes_openBody _ kept).firstChoice
    exact read_bodyTail_append (by simp [functionBody, openBody]) functionBody_shape isHeader
      split (taken.capture .tail)
      (bracedReading_eq reads)
  refine Rule.tryLine_congr found ?_ language number
  intro kept inside same
  obtain ⟨sameHead, sameName, opens⟩ : kept.text? .head = inside.text? .head ∧
    kept.text? .name = inside.text? .name ∧
      true = !inside.has .tail := by simpa [bracedReading, openReading] using same
  simp only [function, sameHead, sameName, ← opens, isHeader.opensBlock_append, isHeader.opensBlock,
    Bool.true_or, Bool.or_true]

private theorem typeDefinition_ignoresBrace : typeDefinition.IgnoresBrace := by
  refine Rule.ignoresBrace_of_unmatched fun header isHeader => ?_
  obtain ⟨start, c, rfl, _, notSemicolon⟩ := isHeader.ends
  constructor
  · exact find?_eq_none_of_lastSign (by simpa using notSemicolon)
  · exact find?_eq_none_of_lastSign (by simp [bodyBrace])

private theorem typeDefinitionEnd_ignoresBrace : typeDefinitionEnd.IgnoresBrace := by
  have requires : typeDefinitionEnd.pattern.Requires (· = '}') := by simp [typeDefinitionEnd]
  refine Rule.ignoresBrace_of_unmatched fun header isHeader => ⟨?_, ?_⟩
  · refine find?_eq_none_of_requires requires fun c member same => ?_
    exact isHeader.noClosing (same ▸ member)
  · refine find?_eq_none_of_requires requires fun c member same => ?_
    rcases List.mem_append.mp member with inHeader | inBrace
    · exact isHeader.noClosing (same ▸ inHeader)
    · exact absurd (same ▸ inBrace) (by decide)

def structuresHead : Pattern :=
  lineStart ++ optional (text "typedef" ++ blanks1) ++ anyText ["struct", "union", "enum"] ++
    blanks1 ++ capture .name word

private theorem structures_ignoresBrace : structures.IgnoresBrace := by
  intro header isHeader language number context
  have anchored : structures.pattern.Anchored := trivial
  have headEnds : structuresHead.EndsBefore bodyBrace :=
    ((endsBefore_many1 (by decide)).capture .name).prepend edge_bodyBrace (by simp)
  have found :
      (structures.pattern.find? (header ++ bodyBrace)).map (fun found => id found.captures) =
      (structures.pattern.find? header).map fun found => id found.captures := by
    refine find?_append_of_tail (bodyTail openBody) headEnds anchored (fun _ _ _ _ => rfl)
      fun text rest kept split _ => ?_
    exact read_bodyTail_append (by simp [openBody])
      (fun _ _ _ _ _ reads => .inr (openBody_shape reads)) isHeader split
      (takes_openBody _ kept) rfl
  refine Rule.tryLine_congr found ?_ language number
  rintro kept inside rfl
  rfl

private theorem plainVariables_ignoresBrace : plainVariables.IgnoresBrace := by
  refine Rule.ignoresBrace_of_endsBefore ?_ fun header _ kept context => ?_
  · exact (endsBefore_one (by decide)).prepend edge_bodyBrace (by simp [bounds])
  · simp only [plainVariables, contains_declarationHead_bodyBrace,
      hasWord_declarationHead_bodyBrace header "const" (by decide)]

theorem ignoresBrace : ∀ rule ∈ table.cascade, rule.IgnoresBrace := by
  simp only [table, List.forall_mem_cons]
  exact ⟨macroDefinition_ignoresBrace, function_ignoresBrace, typeDefinition_ignoresBrace,
    typeDefinitionEnd_ignoresBrace, structures_ignoresBrace, plainVariables_ignoresBrace, by simp⟩

end Rules.C

/-!
## Rules for Java
-/

namespace Rules.Java

open Pattern

private theorem package_ignoresBrace : package.IgnoresBrace := by
  refine Rule.ignoresBrace_of_endsBefore ?_ fun _ _ _ _ => rfl
  exact (endsBefore_char (by decide)).prepend edge_bodyBrace (by simp)

private theorem imports_ignoresBrace : imports.IgnoresBrace := by
  refine Rule.ignoresBrace_of_endsBefore ?_ fun _ _ _ _ => rfl
  exact (endsBefore_char (by decide)).prepend edge_bodyBrace (by simp)

private theorem classes_ignoresBrace : classes.IgnoresBrace := by
  refine Rule.ignoresBrace_of_endsBefore ?_ fun header isHeader kept context => ?_
  · exact ((endsBefore_many1 (by decide)).capture .name).prepend edge_bodyBrace (by simp)
  · simp only [classes, isHeader.opensScope, isHeader.opensScope_append]

private theorem method_ignoresBrace : method.IgnoresBrace := by
  refine Rule.ignoresBrace_of_endsBefore ?_ fun header isHeader kept context => ?_
  · exact (endsBefore_char (by decide)).prepend edge_bodyBrace
      (by simp [leadingWords, typeName, brackets, methodModifiers])
  · simp only [method, isHeader.opensScope, isHeader.opensScope_append]

private theorem plainVariables_ignoresBrace : plainVariables.IgnoresBrace := by
  refine Rule.ignoresBrace_of_endsBefore ?_ fun header _ kept context => ?_
  · exact (endsBefore_one (by decide)).prepend edge_bodyBrace
      (by simp [leadingWords, typeName, brackets, variableModifiers])
  · simp only [plainVariables, contains_declarationHead_bodyBrace,
      hasWord_declarationHead_bodyBrace header "final" (by decide)]

def constructorHead : Pattern :=
  lineStart ++ capture .name word ++ blanks ++ char '(' ++ many (noneOf [')']) ++ char ')'

def inThrows (c : Char) : Bool :=
  wordOr ['.', ','] c || Text.isBlank c

def throwsClause : Pattern :=
  text "throws" ++ blanks1 ++ many1 inThrows

def constructorTail : Pattern :=
  blanks ++ optional throwsClause ++ optional (char '{') ++ lineEnd

/-- Text with nothing in it but a clause that goes up to its end. -/
def EndsInThrows (rest : List Char) : Prop :=
  ∃ gap first names, rest = gap ++ ("throws".toList ++ first :: names) ∧
    (∀ c ∈ gap, Text.isBlank c = true) ∧
    Text.isBlank first = true ∧ ∀ c ∈ names, inThrows c = true

private theorem takes_throwsClause {first : Char} {names rest : List Char}
    (blank : Text.isBlank first = true) (inside : ∀ c ∈ names, inThrows c = true)
    (named : ∃ c ∈ names, Text.isBlank c = false) (stops : ∀ c ∈ rest.head?, inThrows c = false)
    (before : List Char) (captures : Captures) :
    ∃ later, throwsClause.Takes ⟨before, "throws".toList ++ (first :: names ++ rest)⟩ ⟨later, rest⟩
      captures captures := by
  -- The white space behind the word ends at the first name.
  obtain ⟨gap, d, others, rfl, blankGap, notBlank⟩ :
      ∃ gap d others, names = gap ++ d :: others ∧ (∀ c ∈ gap, Text.isBlank c = true) ∧
        Text.isBlank d = false := by
    obtain ⟨c, member, notBlank⟩ := named
    have present : (names.find? (!Text.isBlank ·)).isSome :=
      List.find?_isSome.mpr ⟨c, member, by simp [notBlank]⟩
    obtain ⟨d, first⟩ := Option.isSome_iff_exists.mp present
    obtain ⟨stop, gap, others, split, blankGap⟩ := List.find?_eq_some_iff_append.mp first
    exact ⟨gap, d, others, split, by simpa using blankGap, by simpa using stop⟩
  have word := takes_literal "throws".toList before (first :: (gap ++ d :: others) ++ rest) captures
  have nameFirst : ∀ c ∈ (d :: others ++ rest).head?, Text.isBlank c = false := by
    simpa using notBlank
  have space :=
    takes_many1 (List.cons_ne_nil first gap) (List.forall_mem_cons.mpr ⟨blank, blankGap⟩) nameFirst
    ("throws".toList.reverse ++ before) captures
  have clause :=
    takes_many1 (List.cons_ne_nil d others)
      (fun c member => inside c (List.mem_append_right gap member)) stops
    ((first :: gap).reverse ++ ("throws".toList.reverse ++ before)) captures
  rw [show first :: (gap ++ d :: others) ++ rest =
    first :: gap ++ (d :: others ++ rest) by simp] at word ⊢
  exact ⟨_, (word.append space).append clause⟩

private theorem constructorTail_takes {gap names finish : List Char} {first : Char}
    (blankGap : ∀ c ∈ gap, Text.isBlank c = true) (blank : Text.isBlank first = true)
    (inside : ∀ c ∈ names, inThrows c = true) (named : ∃ c ∈ names, Text.isBlank c = false)
    (braced : finish = [] ∨ finish = ['{']) (before : List Char) (captures : Captures) :
    ∃ later, constructorTail.Takes ⟨before, gap ++ ("throws".toList ++ (first :: names ++ finish))⟩
      later captures captures := by
  have wordFirst :
      ∀ c ∈ ("throws".toList ++ (first :: names ++ finish)).head?, Text.isBlank c = false := by
    simp [Text.isBlank]
  have space := takes_many blankGap wordFirst before captures
  have stops : ∀ c ∈ finish.head?, inThrows c = false := by
    rcases braced with rfl | rfl <;> decide
  obtain ⟨behind, clause⟩ :=
    takes_throwsClause blank inside named stops (gap.reverse ++ before) captures
  obtain ⟨later, brace⟩ : ∃ later,
    (optional (char '{') ++ lineEnd).Takes ⟨behind, finish⟩ later captures captures := by
    rcases braced with rfl | rfl
    · have absent : (char '{').Blocked ⟨behind, []⟩ := blocked_at_end (by simp) behind
      exact ⟨_, (takes_optional_nothing absent captures).append (takes_lineEnd behind captures)⟩
    · exact ⟨_, (takes_literal ['{'] behind [] captures).optionally.append
        (takes_lineEnd _ captures)⟩
  exact ⟨later, ((space.append clause.optionally).append brace).assoc⟩

/-- What the tail reads of a clause: nothing, or the word and what can stand behind it. -/
def IsClause (clause : List Char) : Prop :=
  clause = [] ∨ ∃ first names, clause = "throws".toList ++ first :: names ∧ names ≠ [] ∧
    Text.isBlank first = true ∧
    ∀ c ∈ names, inThrows c = true

theorem IsClause.noBrace {clause : List Char} (isClause : IsClause clause) : '{' ∉ clause := by
  intro member
  rcases isClause with rfl | ⟨first, names, rfl, _, blank, inside⟩
  · exact List.not_mem_nil member
  · rcases List.mem_append.mp member with inWord | inNames
    · exact absurd inWord (by decide)
    · rcases List.mem_cons.mp inNames with rfl | further
      · exact absurd blank (by decide)
      · exact absurd (inside '{' further) (by decide)

private theorem constructorTail_reads {before text others : List Char} {captures kept : Captures}
    (reads : constructorTail.Reads before text others captures kept) :
    others = [] ∧ ∃ gap clause finish, text = gap ++ clause ++ finish ∧
    (∀ c ∈ gap, Text.isBlank c = true) ∧
      IsClause clause ∧ (finish = [] ∨ finish = ['{']) := by
  obtain ⟨_, _, _, rfl, ⟨_, finish, _, rfl, ⟨gap, clause, _, rfl, ⟨blankGap, _⟩, readClause⟩,
    readBrace⟩, ⟨⟨rfl, rfl⟩, _⟩⟩ := reads
  refine ⟨rfl, gap, clause, finish, by simp, blankGap, ?_, ?_⟩
  · rcases readClause with readClause | ⟨rfl, _⟩
    · obtain ⟨_, _, _, rfl, ⟨_, _, _, rfl, ⟨rfl, _⟩,
        ⟨_, space, _, rfl, ⟨⟨first, rfl, blank⟩, _⟩, ⟨blankSpace, _⟩⟩⟩,
        ⟨_, names, _, rfl, ⟨⟨d, rfl, named⟩, _⟩, ⟨inside, _⟩⟩⟩ := readClause
      refine .inr ⟨first, space ++ d :: names, by simp, by simp, blank, ?_⟩
      intro c member
      rcases List.mem_append.mp member with inSpace | inNames
      · simp [inThrows, blankSpace c inSpace]
      · rcases List.mem_cons.mp inNames with rfl | further
        · exact named
        · exact inside c further
    · exact .inl rfl
  · rcases readBrace with ⟨rfl, _⟩ | ⟨rfl, _⟩
    · exact .inr rfl
    · exact .inl rfl

section EndsInThrows

variable {header : List Char} (isHeader : IsHeader header) {before text others : List Char}
    {captures kept : Captures}
  (reads : constructorTail.Reads before text others captures kept)

include isHeader reads

private theorem endsInThrows_of_reads (split : header = text ++ others) : EndsInThrows header := by
  obtain ⟨rfl, gap, clause, finish, rfl, blankGap, readClause, readBrace⟩ :=
    constructorTail_reads reads
  rw [List.append_nil] at split
  rcases readBrace with rfl | rfl
  · rcases readClause with rfl | ⟨first, names, rfl, _, blank, inside⟩
    · exact absurd (by simpa using split.symm) (isHeader.blanks_ne blankGap [])
    · exact ⟨gap, first, names, by simpa using split, blankGap, blank, inside⟩
  · exact absurd (by rw [split]; simp) isHeader.noOpening

/-- The brace that is read is the one added, so the space in front of it is the last character of
the rest. -/
theorem endsInThrows_of_reads_append (split : header ++ bodyBrace = text ++ others) :
    EndsInThrows header := by
  obtain ⟨rfl, gap, clause, finish, rfl, blankGap, readClause, readBrace⟩ :=
    constructorTail_reads reads
  rw [List.append_nil] at split
  rcases readBrace with rfl | rfl
  · have brace : '{' ∈ gap ++ clause := by
      rw [← List.append_nil (gap ++ clause), ← split]
      simp [bodyBrace]
    rcases List.mem_append.mp brace with inGap | inClause
    · exact absurd (blankGap '{' inGap) (by decide)
    · exact absurd inClause readClause.noBrace
  · have spaced : header ++ [' '] = gap ++ clause := by
      refine List.append_cancel_right (?_ : header ++ [' '] ++ ['{'] = gap ++ clause ++ ['{'])
      rw [← split]
      simp [bodyBrace]
    rcases readClause with rfl | ⟨first, names, rfl, nonempty, blank, inside⟩
    · exact absurd (by simpa using spaced.symm) (isHeader.blanks_ne blankGap [' '])
    · obtain ⟨others, d, rfl⟩ := (List.eq_nil_or_concat names).resolve_left nonempty
      have shorter : header ++ [' '] = gap ++ ("throws".toList ++ first :: others) ++ [d] := by
        rw [spaced]
        simp
      refine ⟨gap, first, others, List.append_inj_left' shorter rfl, blankGap, blank, ?_⟩
      exact fun e member => inside e (by simp [member])

end EndsInThrows

/-- A header does not end in white space, so there is a name in the clause that it ends in. -/
theorem exists_named_of_isHeader {gap names : List Char} {first : Char}
    (isHeader : IsHeader (gap ++ ("throws".toList ++ first :: names)))
    (blank : Text.isBlank first = true) :
    ∃ c ∈ names, Text.isBlank c = false := by
  obtain ⟨start, c, ends, notBlank, _⟩ := isHeader.ends
  rcases List.eq_nil_or_concat names with rfl | ⟨others, d, rfl⟩
  · have last := congrArg List.getLast? ends
    obtain rfl : first = c := by simpa using last
    rw [notBlank] at blank
    cases blank
  · have last : gap ++ ("throws".toList ++ first :: others) ++ [d] = start ++ [c] := by
      simpa using ends
    obtain ⟨rfl⟩ := List.append_inj_right' last rfl
    exact ⟨c, by simp, notBlank⟩

private theorem read_constructorTail_append {header text rest : List Char}
    (isHeader : IsHeader header) (split : header = text ++ rest) (kept : Captures) :
    (constructorTail.read ⟨text.reverse, rest ++ bodyBrace⟩ kept fun _ kept => some (id kept)) =
      constructorTail.read ⟨text.reverse, rest⟩ kept fun _ kept => some (id kept) := by
  by_cases ended : rest = []
  · subst ended
    rfl
  have restHeader := isHeader.of_suffix split ended
  by_cases thrown : EndsInThrows rest
  · obtain ⟨gap, first, names, rfl, blankGap, blank, inside⟩ := thrown
    have named := exists_named_of_isHeader restHeader blank
    obtain ⟨_, taken⟩ :=
      constructorTail_takes blankGap blank inside named (.inl rfl) text.reverse kept
    have spaced : ∀ d ∈ names ++ [' '], inThrows d = true :=
      List.forall_mem_append.mpr ⟨inside, List.forall_mem_singleton.mpr rfl⟩
    obtain ⟨_, longer⟩ := constructorTail_takes blankGap blank spaced
      (named.imp fun d => And.imp_left (List.mem_append_left [' '])) (.inr rfl) text.reverse kept
    have short := taken _ (fun _ kept => some (id kept)) _ rfl
    have long := longer _ (fun _ kept => some (id kept)) _ rfl
    simp only [List.append_assoc, List.cons_append, List.nil_append, List.append_nil,
      bodyBrace] at short long ⊢
    rw [short, long]
  · have blocked : constructorTail.Blocked ⟨text.reverse, rest⟩ :=
      blocked_of_not_reads fun _ _ _ _ split reads =>
        thrown (endsInThrows_of_reads restHeader reads split)
    have longerBlocked : constructorTail.Blocked ⟨text.reverse, rest ++ bodyBrace⟩ :=
      blocked_of_not_reads fun _ _ _ _ split reads =>
        thrown (endsInThrows_of_reads_append restHeader reads split)
    rw [blocked, longerBlocked]

private theorem bareConstructor_ignoresBrace : bareConstructor.IgnoresBrace := by
  intro header isHeader language number context
  have anchored : bareConstructor.pattern.Anchored := trivial
  have headEnds : constructorHead.EndsBefore bodyBrace :=
    (endsBefore_char (by decide)).prepend edge_bodyBrace (by simp)
  have found :
      (bareConstructor.pattern.find? (header ++ bodyBrace)).map (fun found => id found.captures) =
      (bareConstructor.pattern.find? header).map fun found => id found.captures :=
    find?_append_of_tail constructorTail headEnds anchored (fun _ _ _ _ => rfl)
      fun _ _ kept split _ => read_constructorTail_append isHeader split kept
  refine Rule.tryLine_congr found ?_ language number
  rintro kept inside rfl
  simp only [bareConstructor, isHeader.opensScope, isHeader.opensScope_append, id]

theorem ignoresBrace : ∀ rule ∈ table.cascade, rule.IgnoresBrace := by
  simp only [table, List.forall_mem_cons]
  exact ⟨package_ignoresBrace, imports_ignoresBrace, classes_ignoresBrace, method_ignoresBrace,
    bareConstructor_ignoresBrace, plainVariables_ignoresBrace, by simp⟩

end Rules.Java

end Symtab
