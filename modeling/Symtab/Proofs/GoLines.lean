import Symtab.Proofs.Excerpt
import Symtab.Proofs.LeadingWords

/-!
# Lines of a Go program

What a line of each form does to a scan. The rules about groups come first and are tried on every
line: outside a group they decline whatever they match, inside one they decide alone.
-/

set_option autoImplicit false

namespace Symtab

namespace Rules.Go

open Pattern

/-- A name that can be declared. -/
structure DeclaredName extends AsciiWord where
  notKeyword : isKeyword text = false
  notDiscard : text ≠ ['_']

def funcWord : AsciiWord := ⟨"func".toList, by decide, by decide⟩

def typeWord : AsciiWord := ⟨"type".toList, by decide, by decide⟩

def structWord : AsciiWord := ⟨"struct".toList, by decide, by decide⟩

def functionLine (name : AsciiWord) : List Char :=
  funcWord.text ++ ' ' :: (name.text ++ "() \x7b".toList)

def methodLine (receiver owner name : AsciiWord) : List Char :=
  funcWord.text ++ ' ' :: ('(' ::
    (receiver.text ++ ' ' :: ('*' ::
      (owner.text ++ ')' :: (' ' :: (name.text ++ "() \x7b".toList))))))

def structLine (name : AsciiWord) : List Char :=
  typeWord.text ++ ' ' :: (name.text ++ ' ' :: (structWord.text ++ " \x7b".toList))

def specLine (name type : AsciiWord) : List Char :=
  name.text ++ ' ' :: (type.text ++ " = 0".toList)

def fieldLine (name type : AsciiWord) : List Char :=
  name.text ++ ' ' :: type.text

def shortLine (name : AsciiWord) : List Char :=
  name.text ++ " := 0".toList

/-- A path of segments with slashes between them. -/
def pathText (leading : List AsciiWord) (last : AsciiWord) : List Char :=
  leading.foldr (fun segment path => segment.text ++ '/' :: path) last.text

def pathLine (leading : List AsciiWord) (last : AsciiWord) : List Char :=
  '"' :: (pathText leading last ++ ['"'])

/-!
## Names
-/

theorem DeclaredName.identifiers_text (name : DeclaredName) :
    identifiers name.text = [name.text] := by
  have noComma : ',' ∉ name.text := name.not_mem (by decide)
  have pieces : commaSeparated name.text = [name.text] := by
    simp [commaSeparated, List.splitOn_eq_singleton noComma, Text.trim,
      name.strip_text name.isBlank]
  simp [identifiers, pieces, name.nonempty, name.notDiscard]

theorem DeclaredName.ne_keyword (name : DeclaredName) {keyword : String}
    (member : keyword ∈ keywords) :
    name.text ≠ keyword.toList := by
  rintro same
  have notKeyword := name.notKeyword
  rw [isKeyword, same] at notKeyword
  simp [isAmong, member] at notKeyword

/-!
## Lines without a match
-/

/-- The rules about a keyword at the start of a line, behind those for packages and groups. -/
def keywordRules : List (String × Rule) :=
  [("import", imports), ("func", function), ("type", types), ("const", constants),
    ("var", plainVariables)]

section FirstWord

variable (first : AsciiWord) {c : Char} (edge : Text.isWord c = false) (rest : List Char)

include edge

theorem find?_of_otherKeyword :
    ∀ entry ∈ ("package", package) :: keywordRules, first.text ≠ entry.1.toList →
    entry.2.pattern.find? (first.text ++ c :: rest) = none := by
  have areWords :
      ∀ entry ∈ ("package", package) :: keywordRules, ∀ d ∈ entry.1.toList,
        Text.isWord d = true := by
    decide +kernel
  have anchored : ∀ entry ∈ ("package", package) :: keywordRules, entry.2.pattern.Anchored := by
    simp only [keywordRules, List.forall_mem_cons]
    exact ⟨trivial, trivial, trivial, trivial, trivial, trivial, by simp⟩
  have carried : ∀ entry ∈ ("package", package) :: keywordRules,
      (lineStart ++ text entry.1 ++ blanks1).Blocked ⟨[], first.text ++ c :: rest⟩ →
        entry.2.pattern.Blocked ⟨[], first.text ++ c :: rest⟩ := by
    simp only [keywordRules, List.forall_mem_cons]
    refine ⟨fun b => b.append _, fun b => b.append _, fun b => ?_, fun b => ?_, fun b => ?_,
      fun b => ?_, by simp⟩
    · exact (((((b.append _).append _).append _).append _).append _).append _
    · exact ((((b.append _).append _).append _).append _).append _
    · exact (((b.append _).append _).append _).append _
    · exact (((b.append _).append _).append _).append _
  intro entry member different
  have blocked := first.blocked_of_otherKeyword (areWords entry member) edge different rest
  exact (anchored entry member).find?_eq_none (carried entry member blocked)

/-- The first rules behind those about groups find nothing in a line that begins no group and starts
with another word. -/
theorem find?_of_firstWord (noGroup : groupStart.pattern.find? (first.text ++ c :: rest) = none)
    (count : Nat)
    (different : ∀ keyword ∈ "package" :: (keywordRules.take count).map (·.1),
      first.text ≠ keyword.toList) :
    ∀ rule ∈ package :: groupStart :: (keywordRules.take count).map (·.2),
      rule.pattern.find? (first.text ++ c :: rest) = none := by
  have other := find?_of_otherKeyword first edge rest
  rw [List.forall_mem_cons, List.forall_mem_map] at different
  rw [List.forall_mem_cons, List.forall_mem_cons, List.forall_mem_map]
  refine ⟨other ("package", package) List.mem_cons_self different.1, noGroup,
    fun entry member => ?_⟩
  exact other entry (List.mem_cons_of_mem _ (List.mem_of_mem_take member))
    (different.2 entry member)

end FirstWord

/-- Rules with a sign that their lines cannot do without. -/
def signRules : List (Char × Rule) :=
  [(')', groupEnd), ('"', groupImport), ('(', groupStart), (':', shortVariables),
    ('(', interfaceMethod)]

theorem find?_of_absentSign {line : List Char} :
    ∀ entry ∈ signRules, entry.1 ∉ line → entry.2.pattern.find? line = none := by
  have requires : ∀ entry ∈ signRules, entry.2.pattern.Requires (· = entry.1) := by
    simp only [signRules, List.forall_mem_cons, groupEnd, groupImport, importedPath, groupStart,
      shortVariables, interfaceMethod]
    simp
  intro entry member absent
  exact find?_eq_none_of_requires (requires entry member) fun c inLine same =>
    absent (same ▸ inLine)

private theorem groupStart_find?_func (rest : List Char) :
    groupStart.pattern.find? (funcWord.text ++ rest) = none := by
  have anchored : groupStart.pattern.Anchored := trivial
  refine anchored.find?_eq_none (blocked_of_next (c := 'f') ?_ ?_ [] _)
  · simp [groupStart, anyText]
  · simp [groupStart, anyText]

/-!
## Matches
-/

theorem takes_typeName (type : AsciiWord) {rest : List Char}
    (stops : ∀ c ∈ rest.head?, wordOr ['.', '*', '[', ']'] c = false) (before : List Char)
    (captures : Captures) :
    typeName.Takes ⟨before, type.text ++ rest⟩ ⟨type.text.reverse ++ before, rest⟩ captures
      captures := by
  have inside : ∀ c ∈ type.text, wordOr ['.', '*', '[', ']'] c = true := by
    intro c member
    rw [wordOr, type.isWord c member, Bool.true_or]
  exact takes_many1 type.nonempty inside stops before captures

private theorem takes_bracketed_nothing {c : Char} (different : c ≠ '[') (before rest : List Char)
    (captures : Captures) :
    bracketed.Takes ⟨before, c :: rest⟩ ⟨before, c :: rest⟩ captures captures := by
  refine takes_optional_nothing (blocked_of_next (by simp) ?_ before rest) captures
  simpa using different.symm

/-- A list of names is a single name in front of a space without a comma after it. -/
theorem takes_nameList (name : AsciiWord) {c : Char} (blank : Text.isBlank c = false)
    (different : c ≠ ',') (before rest : List Char) (captures : Captures) :
    nameList.Takes ⟨before, name.text ++ ' ' :: (c :: rest)⟩
      ⟨name.text.reverse ++ before, ' ' :: (c :: rest)⟩ captures captures := by
  have alone :
      (blanks ++ char ',' ++ blanks ++ word).Blocked
        ⟨name.text.reverse ++ before, ' ' :: (c :: rest)⟩ := by
    have spaceBlank : Text.isBlank ' ' = true := by decide
    have noComma : Text.isBlank ',' = false := by decide
    have ahead : (' ' :: (c :: rest)).find? (!Text.isBlank ·) = some c := by
      simp [spaceBlank, blank]
    refine blocked_of_not_meets ?_ ahead ?_
    · simp [noComma]
    · simp [blank, noComma, different.symm]
  exact (name.takes_word (stops_before (by decide) _) before captures).append
    (takes_repeated_nothing alone captures)

private theorem takes_nameList_typed (name type : AsciiWord) (before rest : List Char)
    (captures : Captures) :
    nameList.Takes ⟨before, name.text ++ ' ' :: (type.text ++ rest)⟩
      ⟨name.text.reverse ++ before, ' ' :: (type.text ++ rest)⟩ captures captures := by
  obtain ⟨c, others, split⟩ := type.exists_cons
  have member : c ∈ type.text := by
    rw [split]
    exact List.mem_cons_self
  have notComma : c ≠ ',' := by
    rintro rfl
    exact type.not_mem (by decide) member
  rw [split]
  exact takes_nameList name (type.isBlank c member) notComma before (others ++ rest) captures

private theorem takes_optionalType (type : AsciiWord) {rest : List Char}
    (stops : ∀ c ∈ rest.head?, wordOr ['.', '*', '[', ']'] c = false) (before : List Char)
    (captures : Captures) :
    optionalType.Takes ⟨before, ' ' :: (type.text ++ rest)⟩
      ⟨type.text.reverse ++ ' ' :: before, rest⟩ captures
      ((.type, type.text) :: captures) :=
  .firstChoice ((type.takes_space before rest captures).append
    ((takes_typeName type stops _ captures).capture .type))

/-- The receiver in front of the name of a method. -/
def receiverPart : Pattern :=
  char '(' ++ blanks ++ optional (word ++ blanks1) ++ optional (char '*') ++ capture .owner word ++
    bracketed ++ blanks ++
    char ')' ++ blanks

private theorem exists_takes_receiver (receiver owner : AsciiWord) {rest : List Char}
    (stops : ∀ c ∈ rest.head?, Text.isBlank c = false) (before : List Char) :
    ∃ later, receiverPart.Takes
      ⟨before, '(' :: (receiver.text ++ ' ' :: ('*' :: (owner.text ++ ')' :: (' ' :: rest))))⟩
      ⟨later, rest⟩ [] [(.owner, owner.text)] := by
  have bound : (optional (word ++ blanks1)).Takes
      ⟨'(' :: before, receiver.text ++ ' ' :: ('*' :: (owner.text ++ ')' :: (' ' :: rest)))⟩
      _ [] [] :=
    ((receiver.takes_word (stops_before (by decide) _) _ _).append
      (takes_blanks1_space (stops_before (by decide) _) _ _)).optionally
  have pointer :=
    (((takes_literal ['('] before _ _).append
      (takes_blanks_nil (receiver.isBlank_head?_append _) _ _)).append
    bound).append (takes_literal ['*'] _ _ _).optionally
  have owned :=
    (pointer.append ((owner.takes_word (stops_before (c := ')') (by decide) (' ' :: rest))
      _ _).capture .owner)).append
    (takes_bracketed_nothing (by decide) _ _ _)
  have closed :=
    (owned.append (takes_blanks_nil (stops_before (by decide) _) _ _)).append
      (takes_literal [')'] _ _ _)
  exact ⟨_, closed.append (takes_blanks_space stops _ _)⟩

/-- The name of a function and the parenthesis after it, behind all that can stand in front of
them. -/
theorem exists_takes_functionName (name : AsciiWord) {front : Pattern} {place : Cursor}
    {before : List Char} {kept : Captures}
    (start : front.Takes place ⟨before, name.text ++ "() \x7b".toList⟩ [] kept) :
    ∃ later, (front ++ capture .name word ++ blanks ++ bracketed ++ blanks ++ char '(').Takes
      place later []
      ((.name, name.text) :: kept) := by
  have named :=
    start.append ((name.takes_word (stops_before (c := '(') (by decide) ") \x7b".toList) before
      kept).capture .name)
  have toParen :=
    ((named.append (takes_blanks_nil (by decide) _ _)).append
      (takes_bracketed_nothing (by decide) _ _ _)).append
    (takes_blanks_nil (by decide) _ _)
  exact ⟨_, toParen.append (takes_literal ['('] _ _ _)⟩

theorem function_finds (name : AsciiWord) :
    function.pattern.Finds (functionLine name) [(.name, name.text)] := by
  have noReceiver :
      receiverPart.Blocked ⟨' ' :: funcWord.text.reverse, name.text ++ "() \x7b".toList⟩ := by
    refine name.blocked_of_next (by simp [receiverPart]) (fun c member => ?_) _ _
    have notParen : '(' ≠ c := fun same => name.not_mem (by decide) (same ▸ member)
    simp [receiverPart, notParen]
  have start :=
    (((takes_lineStart (functionLine name) []).append (takes_literal "func".toList _ _ _)).append
    (name.takes_space _ _ _)).append (takes_optional_nothing noReceiver [])
  obtain ⟨later, whole⟩ := exists_takes_functionName name start
  exact Takes.finds whole

theorem method_finds (receiver owner name : AsciiWord) :
    function.pattern.Finds (methodLine receiver owner name)
      [(.name, name.text), (.owner, owner.text)] := by
  have start :=
    ((takes_lineStart (methodLine receiver owner name) []).append
      (takes_literal "func".toList _ _ _)).append
    (takes_blanks1_space (stops_before (c := '(') (by decide) _) _ _)
  obtain ⟨before, received⟩ :=
    exists_takes_receiver receiver owner (name.isBlank_head?_append "() \x7b".toList)
    (' ' :: funcWord.text.reverse)
  obtain ⟨later, whole⟩ := exists_takes_functionName name (start.append received.optionally)
  exact Takes.finds whole

private theorem types_finds (name : AsciiWord) :
    types.pattern.Finds (structLine name) [(.type, structWord.text), (.name, name.text)] := by
  have noAlias :
      ∀ before, (char '=' ++ blanks).Blocked ⟨before, structWord.text ++ " \x7b".toList⟩ :=
    fun before => blocked_of_next (c := 's') (by simp) (by simp) before _
  have start :=
    ((takes_lineStart (structLine name) []).append (takes_literal "type".toList _ _ _)).append
    (name.takes_space _ _ _)
  have named :=
    (start.append ((name.takes_word (stops_before (c := ' ') (by decide) _) _ _).capture
      .name)).append
    (takes_bracketed_nothing (by decide) _ _ _)
  have typed :=
    (named.append (structWord.takes_space _ _ _)).append (takes_optional_nothing (noAlias _) _)
  exact (typed.append ((takes_typeName structWord (by decide) _ _).capture .type)).finds

theorem constants_finds (name type : AsciiWord) :
    constants.pattern.Finds ("const".toList ++ ' ' :: specLine name type)
      [(.type, type.text), (.name, name.text)] := by
  have start := ((takes_lineStart ("const".toList ++ ' ' :: specLine name type) []).append
    (takes_literal "const".toList _ _ _)).append (name.takes_space _ _ _)
  have typed :=
    (start.append ((name.takes_word (stops_before (c := ' ') (by decide) _) _ _).capture
      .name)).append
    (takes_optionalType type (stops_before (c := ' ') (by decide) "= 0".toList) _ _)
  exact ((typed.append (takes_blanks_space (by decide) _ _)).append
    (takes_literal ['='] _ _ _)).finds

/-- Names with a type and a value, wherever they stand on a line. -/
theorem takes_spec (name type : AsciiWord) (before : List Char) (captures : Captures) :
    ∃ later, (capture .names nameList ++ optionalType ++ blanks ++ valueOrEnd).Takes
      ⟨before, specLine name type⟩ later captures
      ((.type, type.text) :: (.names, name.text) :: captures) := by
  have typed :=
    ((takes_nameList_typed name type before " = 0".toList captures).capture .names).append
    (takes_optionalType type (stops_before (c := ' ') (by decide) "= 0".toList) _ _)
  exact ⟨_, (typed.append (takes_blanks_space (by decide) _ _)).append
    (.firstChoice (takes_literal ['='] _ _ _))⟩

theorem plainVariables_finds (name type : AsciiWord) :
    plainVariables.pattern.Finds ("var".toList ++ ' ' :: specLine name type)
      [(.type, type.text), (.names, name.text)] := by
  have start := ((takes_lineStart ("var".toList ++ ' ' :: specLine name type) []).append
    (takes_literal "var".toList _ _ _)).append (name.takes_space _ _ _)
  obtain ⟨later, spec⟩ := takes_spec name type (' ' :: "var".toList.reverse) []
  have whole : plainVariables.pattern.Takes ⟨[], "var".toList ++ ' ' :: specLine name type⟩ later []
      [(.type, type.text), (.names, name.text)] := start.append spec
  exact whole.finds

theorem groupSpec_finds (name type : AsciiWord) :
    groupSpec.pattern.Finds (specLine name type) [(.type, type.text), (.names, name.text)] := by
  obtain ⟨later, spec⟩ := takes_spec name type [] []
  have whole :
      groupSpec.pattern.Takes ⟨[], specLine name type⟩ later []
        [(.type, type.text), (.names, name.text)] :=
    (takes_lineStart _ []).append spec
  exact whole.finds

private theorem shortVariables_finds (name : DeclaredName) :
    shortVariables.pattern.Finds (shortLine name.toAsciiWord) [(.names, name.text)] := by
  have areWords : ∀ word ∈ ["if", "for", "switch"], ∀ c ∈ word.toList, Text.isWord c = true := by
    decide +kernel
  have notStatement : isAmong ["if", "for", "switch"] name.text = false :=
    isAmong_eq_false_of_subset (by decide) name.notKeyword
  have noStatement :
      (anyText ["if", "for", "switch"] ++ blanks1).Blocked ⟨[], shortLine name.toAsciiWord⟩ :=
    blocked_leadingWord areWords notStatement (by decide) [] _
  have start := (takes_lineStart _ []).append (takes_optional_nothing noStatement [])
  have named :=
    start.append ((takes_nameList name.toAsciiWord (c := ':') (by decide) (by decide) []
      "= 0".toList []).capture .names)
  exact ((named.append (takes_blanks_space (by decide) _ _)).append
    (takes_literal ":=".toList _ _ _)).finds

theorem field_finds (name type : AsciiWord) :
    field.pattern.Finds (fieldLine name type) [(.type, type.text), (.names, name.text)] := by
  have line : fieldLine name type = name.text ++ ' ' :: (type.text ++ []) := by
    rw [fieldLine, List.append_nil]
  rw [line]
  have named :=
    (takes_lineStart _ []).append ((takes_nameList_typed name type [] [] []).capture .names)
  exact ((named.append (type.takes_space _ _ _)).append
    ((takes_typeName type (by simp) _ _).capture .type)).finds

/-!
## Paths
-/

private theorem pathText_cons (segment : AsciiWord) (leading : List AsciiWord) (last : AsciiWord) :
    pathText (segment :: leading) last = segment.text ++ '/' :: pathText leading last := rfl

private theorem not_mem_pathText {c : Char} (outside : isAsciiWord c = false) (notSlash : c ≠ '/')
    (leading : List AsciiWord) (last : AsciiWord) : c ∉ pathText leading last := by
  induction leading with
  | nil => exact last.not_mem outside
  | cons segment leading ih =>
    rw [pathText_cons]
    refine segment.not_mem_append outside fun member => ?_
    rcases List.mem_cons.mp member with same | later
    · exact notSlash same
    · exact ih later

theorem not_mem_pathLine (leading : List AsciiWord) (last : AsciiWord) {c : Char}
    (outside : isAsciiWord c = false) (apart : c ∉ ['/', '"']) : c ∉ pathLine leading last := by
  rw [List.mem_cons, List.mem_singleton, not_or] at apart
  have noText := not_mem_pathText outside apart.1 leading last
  simp [pathLine, noText, apart.2]

private theorem pathText_ne_nil (leading : List AsciiWord) (last : AsciiWord) :
    pathText leading last ≠ [] := by
  cases leading with
  | nil => exact last.nonempty
  | cons segment leading =>
    rw [pathText_cons]
    simp

private theorem pathText_eq (leading : List AsciiWord) (last : AsciiWord) :
    pathText leading last = last.text ∨
    ∃ start, pathText leading last = start ++ '/' :: last.text := by
  induction leading with
  | nil => exact .inl rfl
  | cons segment leading ih =>
    rw [pathText_cons]
    rcases ih with single | ⟨start, split⟩
    · exact .inr ⟨segment.text, by rw [single]⟩
    · exact .inr ⟨segment.text ++ '/' :: start, by rw [split, List.append_assoc, List.cons_append]⟩

theorem lastSegment_pathText (leading : List AsciiWord) (last : AsciiWord) :
    Text.lastSegment '/' (pathText leading last) = last.text := by
  have noSlash : '/' ∉ last.text := last.not_mem (by decide)
  have trimmed : Text.trim last.text = last.text := last.strip_text last.isBlank
  rcases pathText_eq leading last with single | ⟨start, split⟩
  · rw [Text.lastSegment, single, Text.afterLast_of_not_mem noSlash, trimmed]
  · rw [Text.lastSegment, split, Text.afterLast_append_cons start noSlash, trimmed]

theorem groupImport_finds (leading : List AsciiWord) (last : AsciiWord) :
    groupImport.pattern.Finds (pathLine leading last) [(.path, pathText leading last)] := by
  have noBinding :
      (capture .binding (many1 (wordOr ['.'])) ++ blanks1).Blocked ⟨[], pathLine leading last⟩ := by
    have quote : wordOr ['.'] '"' = false := by decide
    exact blocked_of_next (by simp) (by simp [quote]) [] _
  have inside : ∀ c ∈ pathText leading last, noneOf ['"'] c = true := by
    intro c member
    have notQuote : c ≠ '"' := by
      rintro rfl
      exact not_mem_pathText (by decide) (by decide) leading last member
    simpa [noneOf] using notQuote
  have path : (many1 (noneOf ['"'])).Takes ⟨['"'], pathText leading last ++ ['"']⟩ _ [] [] :=
    takes_many1 (pathText_ne_nil leading last) inside (by decide) _ _
  have quoted :=
    ((takes_optional_nothing noBinding []).append (takes_literal ['"'] _ _ _)).append
      (path.capture .path)
  exact ((takes_lineStart _ []).append (quoted.append (takes_literal ['"'] _ [] _))).finds

/-!
## Steps
-/

section Steps

variable {number : Nat} {line : List Char} {context : Context}

/-- The rules behind those about groups. -/
def ungrouped : List Rule :=
  [package, groupStart, imports, function, types, constants, plainVariables, shortVariables,
    interfaceMethod, field]

theorem decline_outside (outside : context.group = none) (captures : Captures) :
    ∀ rule ∈ [groupEnd, groupImport, groupSpec], rule.effect? captures line context = none := by
  simp only [List.forall_mem_cons, groupEnd, groupImport, groupSpec, outside]
  exact ⟨rfl, rfl, rfl, by simp⟩

/-- Outside a group the rules about groups decline, and the first of the others with a match
decides. -/
theorem step_outside_of_ne (outside : context.group = none) (earlier : List Rule) (rule : Rule)
    (later : List Rule) (rules : ungrouped = earlier ++ rule :: later)
    (unmatched : ∀ other ∈ earlier, other.pattern.find? line = none) {kept : Captures}
    (finds : rule.pattern.Finds line kept) {effect : Effect}
    (outcome : rule.effect? kept line context = some effect) (claims : effect.claims = true)
    (other : line ≠ ['}']) :
    context.step .go ⟨number, line⟩ = context.apply .go number effect := by
  have cascade :
      Language.go.rules.cascade =
        ([groupEnd, groupImport, groupSpec] ++ earlier) ++ rule :: later := by
    rw [List.append_assoc, ← rules]
    rfl
  refine Context.step_of_passed _ rule later cascade
    (List.forall_mem_append.mpr ⟨fun other member => ?_, fun other member => ?_⟩)
    (List.forall_mem_nil _) finds outcome claims other
  · exact Context.tryLine_of_declines fun captures => decline_outside outside captures other member
  · exact Context.tryLine_of_find?_eq_none (unmatched other member)

private theorem step_outside (outside : context.group = none) (earlier : List Rule) (rule : Rule)
    (later : List Rule) (rules : ungrouped = earlier ++ rule :: later)
    (unmatched : ∀ other ∈ earlier, other.pattern.find? line = none) {kept : Captures}
    (finds : rule.pattern.Finds line kept) {effect : Effect}
    (outcome : rule.effect? kept line context = some effect) (claims : effect.claims = true)
    (noClosing : '}' ∉ line) :
    context.step .go ⟨number, line⟩ = context.apply .go number effect :=
  step_outside_of_ne outside earlier rule later rules unmatched finds outcome claims
    (Context.ne_closingBrace noClosing)

theorem step_function (outside : context.group = none) (name : AsciiWord) :
    context.step .go ⟨number, functionLine name⟩ =
      context.apply .go number
        { declarations := [{ name := name.name, kind := .function, scope := context.scopes.current }]
          opens := [⟨name.name, .function⟩] } := by
  have unmatched :=
    find?_of_firstWord funcWord (c := ' ') (by decide) (name.text ++ "() \x7b".toList)
    (groupStart_find?_func _) 1 (by decide)
  have count (c : Char) (outside : isAsciiWord c = false) (notSpace : c ≠ ' ') :
      (functionLine name).count c = "() \x7b".toList.count c :=
        funcWord.count_spaced name outside notSpace _
  have isOpen : opensBlock (functionLine name) = true := by
    rw [opensBlock, count '}' (by decide) (by decide), count '{' (by decide) (by decide)]
    decide
  have noClosing : '}' ∉ functionLine name := by
    rw [← List.count_eq_zero, count '}' (by decide) (by decide)]
    decide
  refine step_outside outside _ function _ rfl unmatched (function_finds name) ?_ rfl noClosing
  change some ({ declarations := (Declaration.of? context.scopes.current .function name.text).toList
                 opens := Scope.openedIf (opensBlock (functionLine name)) name.text .function } :
                   Effect) = _
  rw [name.declaration_of?, name.scope_openedIf isOpen]
  rfl

theorem step_method (outside : context.group = none) (receiver owner name : AsciiWord) :
    context.step .go ⟨number, methodLine receiver owner name⟩ =
      context.apply .go number
        { declarations := [{ name := name.name, kind := .method, scope := owner.name }]
          opens := [⟨name.name, .function⟩] } := by
  have unmatched := find?_of_firstWord funcWord (c := ' ') (by decide)
    ('(' :: (receiver.text ++ ' ' ::
      ('*' :: (owner.text ++ ')' :: (' ' :: (name.text ++ "() \x7b".toList))))))
    (groupStart_find?_func _) 1 (by decide)
  have count :
      ∀ c ∈ ['{', '}'], (methodLine receiver owner name).count c = "() \x7b".toList.count c := by
    have apart :
        ∀ c ∈ ['{', '}'], isAsciiWord c = false ∧ ∀ sign ∈ [' ', '(', '*', ')'], sign ≠ c := by
      decide
    intro c member
    obtain ⟨ascii, signs⟩ := apart c member
    rw [methodLine, funcWord.count_append ascii, List.count_cons_of_ne (signs ' ' (by decide)),
      List.count_cons_of_ne (signs '(' (by decide)), receiver.count_append ascii,
        List.count_cons_of_ne (signs ' ' (by decide)),
      List.count_cons_of_ne (signs '*' (by decide)), owner.count_append ascii,
        List.count_cons_of_ne (signs ')' (by decide)),
      List.count_cons_of_ne (signs ' ' (by decide)), name.count_append ascii]
  have isOpen : opensBlock (methodLine receiver owner name) = true := by
    rw [opensBlock, count '}' (by decide), count '{' (by decide)]
    decide
  have noClosing : '}' ∉ methodLine receiver owner name := by
    rw [← List.count_eq_zero, count '}' (by decide)]
    decide
  refine step_outside outside _ function _ rfl unmatched (method_finds receiver owner name) ?_
    rfl noClosing
  change some ({ declarations := (Declaration.of? owner.name .method name.text).toList
                 opens :=
                   Scope.openedIf (opensBlock (methodLine receiver owner name)) name.text
                     .function } : Effect) = _
  rw [name.declaration_of?, name.scope_openedIf isOpen]
  rfl

theorem step_struct (outside : context.group = none) (name : AsciiWord) :
    context.step .go ⟨number, structLine name⟩ =
      context.apply .go number
        { declarations := [
            { name := name.name, kind := .classType, scope := context.scopes.current,
              dataType := "struct"
              description := "Struct type" }]
          opens := [⟨name.name, .classType⟩] } := by
  have count (c : Char) (outside : isAsciiWord c = false) (notSpace : c ≠ ' ') :
      (structLine name).count c = " \x7b".toList.count c := by
    rw [structLine, typeWord.count_spaced name outside notSpace,
      List.count_cons_of_ne notSpace.symm, structWord.count_append outside]
  have noParen : '(' ∉ structLine name := by
    rw [← List.count_eq_zero, count '(' (by decide) (by decide)]
    decide
  have unmatched :=
    find?_of_firstWord typeWord (c := ' ') (by decide)
      (name.text ++ ' ' :: (structWord.text ++ " \x7b".toList))
    (find?_of_absentSign ('(', groupStart) (by simp [signRules]) noParen) 2 (by decide)
  have isOpen : opensBlock (structLine name) = true := by
    rw [opensBlock, count '}' (by decide) (by decide), count '{' (by decide) (by decide)]
    decide
  have noClosing : '}' ∉ structLine name := by
    rw [← List.count_eq_zero, count '}' (by decide) (by decide)]
    decide
  refine step_outside outside _ types _ rfl unmatched (types_finds name) ?_ rfl noClosing
  change some ({ declarations :=
    (Declaration.of? context.scopes.current .classType name.text structWord.text
                   (typeDescription structWord.text)).toList
                 opens := Scope.openedIf (opensBlock (structLine name)) name.text .classType } :
                   Effect) = _
  rw [name.declaration_of?, name.scope_openedIf isOpen]
  rfl

private theorem not_mem_specLine (name type : AsciiWord) {c : Char}
    (outside : isAsciiWord c = false) (apart : c ∉ " = 0".toList) :
    c ∉ specLine name type := by
  have notSpace : c ≠ ' ' := by
    rintro rfl
    exact apart (by decide)
  rw [← List.count_eq_zero, specLine, name.count_spaced type outside notSpace, List.count_eq_zero]
  exact apart

private theorem not_mem_keyword_specLine (keyword name type : AsciiWord) {c : Char}
    (outside : isAsciiWord c = false) (apart : c ∉ " = 0".toList) :
    c ∉ keyword.text ++ ' ' :: specLine name type := by
  refine keyword.not_mem_append outside fun member => ?_
  rcases List.mem_cons.mp member with rfl | inSpec
  · exact apart (by decide)
  · exact not_mem_specLine name type outside apart inSpec

def constWord : AsciiWord := ⟨"const".toList, by decide, by decide⟩

def varWord : AsciiWord := ⟨"var".toList, by decide, by decide⟩

/-- What the rules before the one for a keyword make of a declaration behind it. -/
theorem find?_spec (keyword name type : AsciiWord) (count : Nat)
    (different : ∀ other ∈ "package" :: (keywordRules.take count).map (·.1),
      keyword.text ≠ other.toList) :
    ∀ rule ∈ package :: groupStart :: (keywordRules.take count).map (·.2),
      rule.pattern.find? (keyword.text ++ ' ' :: specLine name type) = none := by
  have noParen := not_mem_keyword_specLine keyword name type (c := '(') (by decide) (by decide)
  exact find?_of_firstWord keyword
    (by decide) _ (find?_of_absentSign ('(', groupStart) (by simp [signRules]) noParen) count
    different

theorem step_constant (outside : context.group = none) (name type : AsciiWord) :
    context.step .go ⟨number, constWord.text ++ ' ' :: specLine name type⟩ =
      context.apply .go number
        { declarations := [
            { name := name.name, kind := .constant, scope := context.scopes.current,
              dataType := type.name }] } := by
  refine step_outside outside _ constants _ rfl (find?_spec constWord name type 3 (by decide))
    (constants_finds name type) ?_ rfl
    (not_mem_keyword_specLine constWord name type (by decide) (by decide))
  change some (Effect.ofDeclarations
    (Declaration.of? context.scopes.current .constant name.text type.text).toList) = _
  rw [name.declaration_of?, Option.bind_some, type.cleanName?_text]
  rfl

/-- The declarations of a single name. -/
theorem DeclaredName.declarations (name : DeclaredName) (type : AsciiWord) (scope : String)
    (kind : Kind) :
    ((identifiers name.text).filterMap fun name => Declaration.of? scope kind name type.text) =
      [{ name := name.name, kind, scope, dataType := type.name }] := by
  rw [name.identifiers_text, List.filterMap_cons, name.declaration_of?, Option.bind_some,
    type.cleanName?_text]
  rfl

theorem step_variable (outside : context.group = none) (name : DeclaredName) (type : AsciiWord) :
    context.step .go ⟨number, varWord.text ++ ' ' :: specLine name.toAsciiWord type⟩ =
      context.apply .go number
        { declarations := [
            { name := name.name, kind := .variable, scope := context.scopes.current,
              dataType := type.name }] } := by
  refine step_outside outside _ plainVariables _ rfl
    (find?_spec varWord name.toAsciiWord type 4 (by decide))
    (plainVariables_finds name.toAsciiWord type) ?_ rfl
      (not_mem_keyword_specLine varWord _ type (by decide) (by decide))
  change some ({ declarations := (identifiers name.text).filterMap fun name =>
    Declaration.of? context.scopes.current .variable name type.text } : Effect) = _
  rw [name.declarations]

/-- A name at the start of a line is none of the words that the rules for keywords look for. -/
theorem DeclaredName.ne_first (name : DeclaredName) :
    ∀ keyword ∈ "package" :: (keywordRules.take 5).map (·.1), name.text ≠ keyword.toList := by
  have areKeywords :
      ∀ keyword ∈ "package" :: (keywordRules.take 5).map (·.1), keyword ∈ keywords := by decide
  exact fun keyword member => name.ne_keyword (areKeywords keyword member)

theorem step_short (outside : context.group = none) (name : DeclaredName) :
    context.step .go ⟨number, shortLine name.toAsciiWord⟩ =
      context.apply .go number
        { declarations := [{ name := name.name, kind := .variable, scope := context.scopes.current }] } := by
  have absent {c : Char} (outside : isAsciiWord c = false) (apart : c ∉ " := 0".toList) :
      c ∉ shortLine name.toAsciiWord :=
    name.not_mem_append outside apart
  have noGroup :=
    find?_of_absentSign ('(', groupStart) (by simp [signRules]) (absent (by decide) (by decide))
  have unmatched :=
    find?_of_firstWord name.toAsciiWord (c := ' ') (by decide) ":= 0".toList noGroup 5 name.ne_first
  refine step_outside outside _ shortVariables _ rfl unmatched (shortVariables_finds name) ?_ rfl
    (absent (by decide) (by decide))
  change (if (identifiers name.text).any isKeyword = true then none else
    some
      ({ declarations := (identifiers name.text).filterMap (Declaration.of? context.scopes.current .variable ·) } : Effect)) = _
  rw [name.identifiers_text, List.any_cons, name.notKeyword, List.any_nil, Bool.or_false,
    if_neg Bool.false_ne_true, List.filterMap_cons, name.declaration_of?]
  rfl

theorem step_field (outside : context.group = none)
    (inside : context.scopes.currentKind = .classType) (name : DeclaredName) (type : AsciiWord) :
    context.step .go ⟨number, fieldLine name.toAsciiWord type⟩ =
      context.apply .go number
        { declarations := [
            { name := name.name, kind := .property, scope := context.scopes.owner,
              dataType := type.name }] } := by
  have absent {c : Char} (outside : isAsciiWord c = false) (notSpace : c ≠ ' ') :
      c ∉ fieldLine name.toAsciiWord type := by
    refine name.not_mem_append outside fun member => ?_
    rcases List.mem_cons.mp member with same | inType
    · exact notSpace same
    · exact type.not_mem outside inType
  have noSign : ∀ entry ∈ signRules, isAsciiWord entry.1 = false ∧ entry.1 ≠ ' ' := by decide
  have signless :
      ∀ entry ∈ signRules, entry.2.pattern.find? (fieldLine name.toAsciiWord type) = none :=
    fun entry member =>
    find?_of_absentSign entry member (absent (noSign entry member).1 (noSign entry member).2)
  have leading := find?_of_firstWord name.toAsciiWord (c := ' ') (by decide) type.text
    (signless ('(', groupStart) (by simp [signRules])) 5 name.ne_first
  have unmatched :
      ∀ rule ∈ (package :: groupStart :: (keywordRules.take 5).map (·.2)) ++ [shortVariables, interfaceMethod],
      rule.pattern.find? (fieldLine name.toAsciiWord type) = none := by
    refine List.forall_mem_append.mpr ⟨leading, ?_⟩
    rw [List.forall_mem_cons, List.forall_mem_singleton]
    exact ⟨signless (':', shortVariables) (by simp [signRules]),
      signless ('(', interfaceMethod) (by simp [signRules])⟩
  refine step_outside outside _ field [] rfl unmatched (field_finds name.toAsciiWord type) ?_ rfl
    (absent (by decide) (by decide))
  change (if (decide (context.scopes.currentKind ≠ .classType) ||
    (identifiers name.text).any isKeyword) = true then none else
    some ({ declarations := (identifiers name.text).filterMap fun name =>
      Declaration.of? context.scopes.owner .property name type.text } : Effect)) = _
  have accepted :
      ¬(decide (context.scopes.currentKind ≠ .classType) || (identifiers name.text).any isKeyword) =
        true := by
    simp [inside, name.identifiers_text, name.notKeyword]
  rw [if_neg accepted, name.declarations]

/-!
### Groups
-/

/-- The line that begins a group. -/
def groupLine : DeclarationGroup → List Char
  | .imports => "import (".toList
  | .constants => "const (".toList
  | .plainVariables => "var (".toList

theorem step_groupStart (outside : context.group = none) (group : DeclarationGroup) :
    context.step .go ⟨number, groupLine group⟩ =
      context.apply .go number { group := .enter (some group) } := by
  cases group with
  | imports =>
    exact step_outside outside [package] groupStart _ rfl (by decide) ⟨_, rfl, rfl⟩ rfl rfl
      (by decide)
  | constants =>
    exact step_outside outside [package] groupStart _ rfl (by decide) ⟨_, rfl, rfl⟩ rfl rfl
      (by decide)
  | plainVariables =>
    exact step_outside outside [package] groupStart _ rfl (by decide) ⟨_, rfl, rfl⟩ rfl rfl
      (by decide)

theorem step_groupEnd {group : DeclarationGroup} (inside : context.group = some group) :
    context.step .go ⟨number, [')']⟩ = context.apply .go number { group := .enter none } := by
  refine Context.step_of_claims_unchecked rfl [] groupEnd _ rfl (List.forall_mem_nil _)
    ⟨_, rfl, rfl⟩ ?_ rfl (by decide)
  simp [groupEnd, inside]

theorem step_spec {kind : Kind} (inside : groupKind? context.group = some kind)
    (name : DeclaredName) (type : AsciiWord) :
    context.step .go ⟨number, specLine name.toAsciiWord type⟩ =
      context.apply .go number
        { declarations := [{ name := name.name, kind, scope := context.scopes.current, dataType := type.name }] } := by
  have absent {c : Char} := not_mem_specLine name.toAsciiWord type (c := c)
  have unmatched :
      ∀ rule ∈ [groupEnd, groupImport],
        rule.pattern.find? (specLine name.toAsciiWord type) = none := by
    rw [List.forall_mem_cons, List.forall_mem_singleton]
    exact ⟨find?_of_absentSign (')', groupEnd) (by simp [signRules])
      (absent (by decide) (by decide)),
      find?_of_absentSign ('"', groupImport) (by simp [signRules]) (absent (by decide) (by decide))⟩
  refine Context.step_of_claims_unchecked rfl [groupEnd, groupImport] groupSpec _ rfl unmatched
    (groupSpec_finds name.toAsciiWord type) ?_ rfl (absent (by decide) (by decide))
  simp only [groupSpec, inside]
  change some ({ declarations := (identifiers name.text).filterMap fun name =>
    Declaration.of? context.scopes.current kind name type.text } : Effect) = _
  rw [name.declarations]

theorem step_path (inside : context.group = some .imports) (leading : List AsciiWord)
    (last : AsciiWord) :
    context.step .go ⟨number, pathLine leading last⟩ =
      context.apply .go number
        { declarations := [{ name := last.name, kind := .imported, scope := globalScope, dataType := "package" }] } := by
  have absent {c : Char} := not_mem_pathLine leading last (c := c)
  have unmatched : ∀ rule ∈ [groupEnd], rule.pattern.find? (pathLine leading last) = none :=
    List.forall_mem_singleton.mpr
      (find?_of_absentSign (')', groupEnd) (by simp [signRules]) (absent (by decide) (by decide)))
  refine Context.step_of_claims_unchecked rfl [groupEnd] groupImport _ rfl unmatched
    (groupImport_finds leading last) ?_ rfl
    (absent (by decide) (by decide))
  change (if context.group ≠ some .imports then none
    else some (importEffect none (pathText leading last))) = _
  rw [if_neg (not_not_intro inside)]
  change some ({ declarations :=
    (Declaration.of? globalScope .imported (Text.lastSegment '/' (pathText leading last))
    "package".toList).toList } : Effect) = _
  rw [lastSegment_pathText, last.declaration_of?]
  rfl

end Steps

end Rules.Go

end Symtab
