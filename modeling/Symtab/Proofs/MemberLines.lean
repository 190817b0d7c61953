import Symtab.Proofs.ControlFlow
import Symtab.Proofs.NameLists
import Symtab.Proofs.Provenance

/-!
# Lines that define a member outside its class

The line that starts the definition of a member outside its class: the words in front of the name,
the name with its qualification, and the parameters. No rule is about such a line but those for
constructors and functions: with words in front of the name it is not the line of a constructor, and
without them it is not that of a function or variable.
-/

set_option autoImplicit false

namespace Symtab

namespace Pattern

/-!
## Patterns that are not read
-/

section Unread

variable {first second pattern : Pattern} {after : List Char} {skipped : Char → Bool} {c : Char}

theorem Skips.append_unread (skips : first.Skips after) (unread : second.Unread after) :
    (first ++ second).Unread after := by
  rintro before _ rest captures kept split ⟨start, finish, between, rfl, readFirst, readSecond⟩
  rw [List.append_assoc] at split
  obtain rfl := skips _ _ _ _ _ split readFirst
  rw [List.nil_append] at split
  exact unread _ _ _ _ _ split readSecond

theorem Unread.assoc {third : Pattern} (unread : (first ++ (second ++ third)).Unread after) :
    (first ++ second ++ third).Unread after :=
  fun before text rest captures kept split reads =>
    unread before text rest captures kept split reads.assoc

theorem Unread.capture (unread : pattern.Unread after) (slot : Slot) :
    (capture slot pattern).Unread after := by
  rintro before text rest captures kept split ⟨inside, reads, -⟩
  exact unread before text rest captures inside split reads

theorem Unread.blocked (unread : pattern.Unread after) (before : List Char) :
    pattern.Blocked ⟨before, after⟩ :=
  blocked_of_not_reads fun text rest captures kept => unread before text rest captures kept

theorem Unread.find?_eq_none (unread : pattern.Unread after) (anchored : pattern.Anchored) :
    pattern.find? after = none :=
  anchored.find?_eq_none (unread.blocked [])

/-- A pattern that cannot do with skipped characters is not read in front of a character that it
cannot meet after them. -/
theorem unread_of_not_meets (stuck : ¬pattern.Passes skipped)
    (ahead : after.find? (!skipped ·) = some c) (unmet : ¬pattern.Meets skipped c) :
    pattern.Unread after := by
  rintro before text rest captures kept rfl reads
  rcases reads.meets skipped with ⟨-, passes⟩ | ⟨d, found, meets⟩
  · exact stuck passes
  · rw [List.find?_append, found, Option.some_or] at ahead
    cases ahead
    exact unmet meets

/-- In front of the end of a line, a pattern has to go on over skipped characters. -/
theorem unread_before_lineEnd (ahead : after.find? (!skipped ·) = some c)
    (unmet : ¬pattern.Meets skipped c) :
    (pattern ++ lineEnd).Unread after := by
  rintro before _ rest captures kept split ⟨text, _, between, rfl, reads, ⟨rfl, rfl⟩, _⟩
  rw [List.append_nil, List.append_nil] at split
  rw [split] at ahead
  rcases reads.meets skipped with ⟨none, -⟩ | ⟨d, found, meets⟩
  · rw [none] at ahead
    cases ahead
  · rw [found] at ahead
    cases ahead
    exact unmet meets

end Unread

private theorem not_meets_anyText {skipped : Char → Bool} {c : Char} :
    (written : List String) → (∀ word ∈ written, word.toList.find? (!skipped ·) = none) →
    ¬(anyText written).Meets skipped c
  | [], _ => by simp [anyText]
  | [word], allSkipped => by simp [anyText, allSkipped word (List.mem_singleton_self word)]
  | word :: next :: others, allSkipped => by
    obtain ⟨first, rest⟩ := List.forall_mem_cons.mp allSkipped
    rintro (met | met)
    · rw [meets_text, first] at met
      cases met
    · exact not_meets_anyText (next :: others) rest met

end Pattern

/-!
## Words in a text
-/

theorem isAmong_eq_false {words : List String} {text : List Char} {c : Char} (inside : c ∈ text)
    (absent : ∀ word ∈ words, c ∉ word.toList) : isAmong words text = false := by
  have unlisted : String.ofList text ∉ words :=
    fun listed => absent _ listed (by rwa [String.toList_ofList])
  simpa [isAmong] using unlisted

section Joined

variable {words : List (List Char)} (nonempty : words ≠ [])

include nonempty

/-- Words with spaces between them have no white space at their ends. -/
theorem ends_intercalate (each : ∀ word ∈ words, word ≠ [] ∧ ∀ c ∈ word, Text.isBlank c = false) :
    [' '].intercalate words ≠ [] ∧ (∀ c ∈ ([' '].intercalate words).head?, Text.isBlank c = false) ∧
      ∀ c ∈ ([' '].intercalate words).getLast?, Text.isBlank c = false := by
  induction words with
  | nil => exact absurd rfl nonempty
  | cons word others ih =>
    obtain ⟨⟨spelled, visible⟩, rest⟩ := List.forall_mem_cons.mp each
    cases others with
    | nil =>
      rw [List.intercalate_singleton]
      exact ⟨spelled, fun c first => visible c (List.mem_of_head? first),
        fun c last => visible c (List.mem_of_getLast? last)⟩
    | cons next others =>
      obtain ⟨behind, _, last⟩ := ih (List.cons_ne_nil _ _) rest
      rw [List.intercalate_cons_cons, List.getLast?_append_of_ne_nil _ behind, List.append_assoc,
        List.head?_append_of_ne_nil _ spelled]
      exact ⟨by simp, fun c first => visible c (List.mem_of_head? first), last⟩

theorem cleanName?_intercalate
    (each : ∀ word ∈ words, word ≠ [] ∧ (∀ c ∈ word, Text.isBlank c = false) ∧
      ∀ c ∈ word, isQuote c = false) :
    cleanName? ([' '].intercalate words) = some (String.ofList ([' '].intercalate words)) := by
  obtain ⟨spelled, first, last⟩ :=
    ends_intercalate nonempty fun word listed => (each word listed).imp_right And.left
  have noQuote : ∀ c ∈ [' '].intercalate words, isQuote c = false :=
    forall_mem_intercalate (by decide) fun word listed => (each word listed).2.2
  have trimmed : Text.trim ([' '].intercalate words) = [' '].intercalate words :=
    Text.strip_eq_self first last
  rw [cleanName?, trimmed, Text.strip_of_outside noQuote, trimmed]
  split
  · next empty => exact absurd empty spelled
  · rfl

end Joined

namespace Rules.Cpp

open Pattern

/-!
## Lines
-/

/-- The characters of a word in front of a name, but for the first. -/
abbrev inHead : Char → Bool :=
  wordOr [':', '<', '>', ',', '*', '&']

/-- A word in front of a name and white space. -/
abbrev headPiece : Pattern :=
  one isAsciiNameStart ++ many inHead ++ blanks1

/-- A word in front of a name, such as a specifier or a type without blanks. -/
structure HeadWord where
  first : Char
  others : List Char
  isStart : isAsciiNameStart first = true
  inOthers : ∀ c ∈ others, inHead c = true
  notKeyword : isStatementKeyword (first :: others) = false

def HeadWord.text (word : HeadWord) : List Char :=
  word.first :: word.others

/-- The type and the name of a parameter, with the white space in front of them. -/
structure Parameter where
  lead : Gap
  type : Word
  name : Word
  notNumber : ∀ c ∈ type.text.head?, c.isDigit = false

def Parameter.text (parameter : Parameter) : List Char :=
  parameter.lead.text ++ (parameter.type.text ++ ' ' :: parameter.name.text)

/-- A member that is defined outside its class. -/
structure OutOfLineMember where
  head : List HeadWord
  notTemplate : ∀ word ∈ head.head?, ¬"template<".toList <+: word.text
  path : WordPath
  isDestructor : Bool
  base : Word
  parameters : List Parameter

namespace OutOfLineMember

variable (member : OutOfLineMember)

/-- The name with the mark of a destructor, if it is one. -/
def name : List Char :=
  if member.isDestructor then '~' :: member.base.text else member.base.text

def headText : List Char :=
  member.head.flatMap fun word => word.text ++ [' ']

/-- What qualifies the name. -/
def qualifier : List Char :=
  member.path.text ++ "::".toList

def parameterText : List Char :=
  [','].intercalate (member.parameters.map Parameter.text)

/-- The line from the parameters on. -/
def signature : List Char :=
  '(' :: (member.parameterText ++ ')' :: ' ' :: ['{'])

/-- The line from the name on. -/
def qualifiedText : List Char :=
  member.qualifier ++ (member.name ++ member.signature)

def text : List Char :=
  member.headText ++ member.qualifiedText

/-- The words in front of the name that say what is returned. -/
def typeWords : List (List Char) :=
  (member.head.map HeadWord.text).filter fun word => !isAmong specifiers word

def dataType : Option (List Char) :=
  if member.typeWords = [] then none else some ([' '].intercalate member.typeWords)

/-- The line as the definition of a constructor or destructor. -/
def asConstructor : Declaration where
  name := String.ofList member.name
  kind := .constructor
  scope := member.path.last.name
  description := some (if member.isDestructor then "Destructor" else "Class constructor")

/-- The line as the definition of another member. -/
def asMethod : Declaration where
  name := String.ofList member.name
  kind := .method
  scope := member.path.last.name
  dataType := member.dataType.map String.ofList

/-- What is declared: a constructor of the class of its name, or a method if there are words in
front of the name. -/
def declaration? : Option Declaration :=
  if member.base.text = member.path.last.text then some member.asConstructor
  else if member.head.isEmpty then none
  else some member.asMethod

/-- The body of the member. -/
def scope : Scope :=
  ⟨String.ofList member.name, .function⟩

end OutOfLineMember

/-!
## Characters
-/

private theorem isWord_of_isAsciiNameStart {c : Char} (start : isAsciiNameStart c = true) :
    Text.isWord c = true := by
  refine isWord_of_isAsciiWord ?_
  rw [isAsciiNameStart, Bool.or_eq_true] at start
  rw [isAsciiWord, Bool.or_eq_true, Char.isAlphanum, Bool.or_eq_true]
  exact start.imp_left .inl

theorem HeadWord.text_ne_nil (word : HeadWord) : word.text ≠ [] :=
  List.cons_ne_nil word.first word.others

theorem HeadWord.inText (word : HeadWord) : ∀ c ∈ word.text, inHead c = true :=
  List.forall_mem_cons.mpr
    ⟨by simp [wordOr, isWord_of_isAsciiNameStart word.isStart], word.inOthers⟩

theorem HeadWord.isBlank (word : HeadWord) : ∀ c ∈ word.text, Text.isBlank c = false :=
  fun c member => isBlank_of_wordOr (by decide) (word.inText c member)

/-- The characters of a line up to its last one. -/
abbrev inMember (c : Char) : Bool :=
  wordOr [':', '<', '>', ',', '*', '&', '~', '(', ')'] c || Text.isBlank c

private theorem inMember_of_wordOr {signs : List Char}
    (subset : signs ⊆ [':', '<', '>', ',', '*', '&', '~', '(', ')']) {c : Char}
    (belongs : wordOr signs c = true) : inMember c = true := by
  rw [inMember, wordOr_of_subset subset belongs, Bool.true_or]

/-- The characters of the parameters. -/
abbrev inParameters (c : Char) : Bool :=
  wordOr [','] c || Text.isBlank c

theorem Parameter.inText (parameter : Parameter) :
    ∀ c ∈ parameter.text, wordOr [] c = true ∨ Text.isBlank c = true := by
  have inWord (word : Word) : ∀ c ∈ word.text, wordOr [] c = true ∨ Text.isBlank c = true :=
    fun c member => .inl (word.wordOr_text [] c member)
  exact List.forall_mem_append.mpr ⟨fun c member => .inr (parameter.lead.blank c member),
    List.forall_mem_append.mpr ⟨inWord _, List.forall_mem_cons.mpr ⟨by decide, inWord _⟩⟩⟩

/-- A parameter has a space inside, so it is no literal word. -/
theorem Parameter.isValue_trim (parameter : Parameter) :
    isValue (Text.trim parameter.text) = false := by
  obtain ⟨c, rest, spelled, isWord⟩ := parameter.type.exists_first
  have trimmed : Text.trim parameter.text = parameter.type.text ++ ' ' :: parameter.name.text := by
    rw [text, Text.trim, Text.strip_append parameter.lead.blank]
    refine Text.strip_eq_self (parameter.type.isBlank_head?_append _) fun c last => ?_
    rw [List.getLast?_append_of_ne_nil _ (List.cons_ne_nil _ _), ← List.singleton_append,
      List.getLast?_append_of_ne_nil _ parameter.name.nonempty] at last
    exact parameter.name.isBlank c (List.mem_of_getLast? last)
  have noQuote : '"' ∉ parameter.type.text ++ ' ' :: parameter.name.text := by
    simp [parameter.type.not_mem (c := '"') (by decide),
      parameter.name.not_mem (c := '"') (by decide)]
  have noLiteral :
      isAmong ["true", "false", "nullptr"] (parameter.type.text ++ ' ' :: parameter.name.text) =
        false :=
    isAmong_eq_false (c := ' ') (by simp) (by decide)
  have notDigit : c.isDigit = false := parameter.notNumber c (by simp [spelled])
  have noSign : oneOf ['"', '\'', '-', '&', '{'] c = false := oneOf_eq_false (by decide) isWord
  rw [trimmed, isValue, noLiteral, List.contains_eq_mem, decide_eq_false noQuote, Bool.or_false,
    Bool.or_false, spelled, List.cons_append, List.head?_cons, Option.any_some, notDigit, noSign,
    Bool.or_false]

namespace OutOfLineMember

variable (member : OutOfLineMember)

private theorem inQualifier : ∀ c ∈ member.qualifier, wordOr [':'] c = true := by
  refine List.forall_mem_append.mpr ⟨fun c inPath => ?_, by decide⟩
  rcases member.path.isWord_or_colon c inPath with word | rfl
  · simp [wordOr, word]
  · decide

theorem inName : ∀ c ∈ member.name, wordOr ['~'] c = true := by
  rw [name]
  split
  · exact List.forall_mem_cons.mpr ⟨by decide, member.base.wordOr_text _⟩
  · exact member.base.wordOr_text _

theorem inParameterText : ∀ c ∈ member.parameterText, inParameters c = true := by
  refine forall_mem_intercalate (by decide) fun piece listed c inside => ?_
  obtain ⟨parameter, _, rfl⟩ := List.mem_map.mp listed
  rw [inParameters, Bool.or_eq_true]
  exact (parameter.inText c inside).imp_left (wordOr_of_subset (List.nil_subset _))

/-- The line without its last character. -/
def front : List Char :=
  member.headText ++
    (member.qualifier ++ (member.name ++ '(' :: (member.parameterText ++ [')', ' '])))

theorem text_eq : member.text = member.front ++ ['{'] := by
  simp [text, front, qualifiedText, signature]

theorem inFront : ∀ c ∈ member.front, inMember c = true := by
  have inHeadText : ∀ c ∈ member.headText, inMember c = true := by
    intro c inHead
    obtain ⟨word, _, inWord⟩ := List.mem_flatMap.mp inHead
    rcases List.mem_append.mp inWord with inText | blank
    · exact inMember_of_wordOr (by decide) (word.inText c inText)
    · obtain rfl := List.mem_singleton.mp blank
      decide
  refine List.forall_mem_append.mpr ⟨inHeadText,
    List.forall_mem_append.mpr ⟨fun c inside => ?_, List.forall_mem_append.mpr
    ⟨fun c inside => ?_, List.forall_mem_cons.mpr
      ⟨by decide, List.forall_mem_append.mpr ⟨fun c inside => ?_, by decide⟩⟩⟩⟩⟩
  · exact inMember_of_wordOr (by decide) (member.inQualifier c inside)
  · exact inMember_of_wordOr (by decide) (member.inName c inside)
  · rw [inMember, Bool.or_eq_true]
    have inParameters : wordOr [','] c = true ∨ Text.isBlank c = true := by
      simpa using member.inParameterText c inside
    exact inParameters.imp_left (wordOr_of_subset (by decide))

theorem not_mem_text {c : Char} (outside : inMember c = false) (different : c ≠ '{') :
    c ∉ member.text := by
  rw [text_eq]
  refine List.not_mem_append (fun inside => ?_) (by simpa using different)
  rw [member.inFront c inside] at outside
  cases outside

theorem opensBlock_text : opensBlock member.text = true := by
  have closing : member.text.count '}' = 0 :=
    List.count_eq_zero_of_not_mem (member.not_mem_text (by decide) (by decide))
  have opening : 0 < member.text.count '{' := List.count_pos_iff.mpr (by simp [text_eq])
  simpa [opensBlock, closing] using opening

end OutOfLineMember

/-!
## The first word of a line
-/

section FirstWord

variable {token rest start more : List Char} (visible : ∀ c ∈ token, Text.isBlank c = false)
  (noBlank : ∀ c ∈ start, Text.isBlank c = false)

include noBlank

private theorem exists_rest_of_token (same : token ++ ' ' :: rest = start ++ more) :
    ∃ left, token = start ++ left ∧ more = left ++ ' ' :: rest := by
  rcases List.append_eq_append_iff.mp same with ⟨left, longer, split⟩ | ⟨left, shorter, split⟩
  · cases left with
    | nil => exact ⟨[], by simpa using longer.symm, by simpa using split.symm⟩
    | cons c left =>
      obtain ⟨rfl, -⟩ := List.cons.inj split
      exact absurd (noBlank ' ' (by simp [longer])) (by decide)
  · exact ⟨left, shorter, split⟩

include visible

/-- What ends in front of white space is the first word. -/
theorem eq_token_of_blank {c : Char} (blank : Text.isBlank c = true)
    (same : token ++ ' ' :: rest = start ++ c :: more) :
    start = token := by
  obtain ⟨left, split, follows⟩ := exists_rest_of_token noBlank same
  cases left with
  | nil => simpa using split.symm
  | cons d left =>
    obtain ⟨rfl, -⟩ := List.cons.inj follows
    rw [visible c (by simp [split])] at blank
    cases blank

/-- A sign that white space may come before stands in the first word, or it starts the second. -/
theorem prefix_token_of_sign {gap : List Char} {c d : Char}
    (blank : ∀ c ∈ gap, Text.isBlank c = true) (visibleSign : Text.isBlank c = false)
    (visibleNext : Text.isBlank d = false)
    (same : token ++ ' ' :: d :: rest = start ++ (gap ++ c :: more)) :
    start ++ [c] <+: token ∨ c = d := by
  obtain ⟨left, split, follows⟩ := exists_rest_of_token noBlank same
  have apart {e : Char} (isBlank : Text.isBlank e = true) (visible : Text.isBlank e = false) :
      start ++ [c] <+: token ∨ c = d := by
    rw [visible] at isBlank
    cases isBlank
  cases left with
  | cons e left =>
    cases gap with
    | nil =>
      obtain ⟨rfl, -⟩ := List.cons.inj follows
      exact .inl ⟨left, by simp [split]⟩
    | cons g gap =>
      obtain ⟨rfl, -⟩ := List.cons.inj follows
      exact apart (blank g List.mem_cons_self) (visible g (by simp [split]))
  | nil =>
    cases gap with
    | nil =>
      obtain ⟨rfl, -⟩ := List.cons.inj follows
      exact apart (by decide) visibleSign
    | cons g gap =>
      obtain ⟨-, follows⟩ := List.cons.inj follows
      cases gap with
      | nil => exact .inr (List.cons.inj follows).1
      | cons e gap =>
        obtain ⟨rfl, -⟩ := List.cons.inj follows
        exact apart (blank e (by simp)) visibleNext

end FirstWord

namespace OutOfLineMember

variable (member : OutOfLineMember)

/-!
## Rules that pass the line on
-/

theorem macroDefinition_find? : macroDefinition.pattern.find? member.text = none := by
  have requires : macroDefinition.pattern.Requires (· = '#') := by simp [macroDefinition]
  exact find?_eq_none_of_requires requires fun c inside same =>
    member.not_mem_text (by decide) (by decide) (same ▸ inside)

/-- A parenthesis comes before the brace, which the name of a namespace does not reach over. -/
theorem namespaces_find? : namespaces.pattern.find? member.text = none := by
  let skipped : Char → Bool := fun c => wordOr [':'] c || Text.isBlank c
  have opens : '(' ∈ member.front := by simp [front]
  have present : (member.front.find? (!skipped ·)).isSome :=
    List.find?_isSome.mpr ⟨'(', opens, by decide⟩
  obtain ⟨c, found⟩ := Option.isSome_iff_exists.mp present
  obtain ⟨notName, notBlank⟩ : wordOr [':'] c = false ∧ Text.isBlank c = false := by
    simpa [skipped] using List.find?_some found
  have notBrace : '{' ≠ c := by
    rintro rfl
    exact absurd (member.inFront '{' (List.mem_of_find?_eq_some found)) (by decide)
  have ahead : member.text.find? (!skipped ·) = some c := by
    rw [text_eq, List.find?_append, found, Option.some_or]
  have unread : namespaces.pattern.Unread member.text := by
    refine unread_before_lineEnd ahead ?_
    have inline : "inline".toList.find? (!skipped ·) = none := by decide
    have keyword : "namespace".toList.find? (!skipped ·) = none := by decide
    have brace : skipped '{' = false := by decide
    simp only [meets_append, meets_optional, meets_text, inline, keyword]
    simp [openBody, notName, notBlank, notBrace, brace]
  exact unread.find?_eq_none trivial

private theorem exists_first_behind (words : List HeadWord) :
    ∃ c rest, (words.flatMap fun word => word.text ++ [' ']) ++ member.qualifiedText = c :: rest ∧
    Text.isWord c = true := by
  cases words with
  | nil =>
    obtain ⟨c, rest, split, isWord⟩ := member.path.exists_cons
    exact ⟨c, _, by rw [qualifiedText, qualifier, split]; rfl, isWord⟩
  | cons word words => exact ⟨word.first, _, rfl, isWord_of_isAsciiNameStart word.isStart⟩

theorem isWord_head?_behind (words : List HeadWord) :
    ∀ c ∈ ((words.flatMap fun word => word.text ++ [' ']) ++ member.qualifiedText).head?,
      Text.isWord c = true := by
  obtain ⟨c, rest, split, isWord⟩ := member.exists_first_behind words
  simpa [split] using isWord

/-- A line with words in front of the name starts with the first of them, and the next word follows
after a space. -/
theorem exists_token {word : HeadWord} {words : List HeadWord}
    (leads : member.head = word :: words) :
    ∃ d rest, member.text = word.text ++ ' ' :: d :: rest ∧ Text.isWord d = true := by
  obtain ⟨d, rest, split, isWord⟩ := member.exists_first_behind words
  exact ⟨d, rest, by simp [text, headText, leads, ← split], isWord⟩

/-- The name and its qualification end at a sign, the mark of a destructor or the parenthesis. -/
theorem find?_qualifiedText {inClass : Char → Bool}
    (includes : ∀ c, wordOr [':'] c = true → inClass c = true) (noMark : inClass '~' = false)
    (noParenthesis : inClass '(' = false) :
    ∃ c, member.qualifiedText.find? (!inClass ·) = some c ∧ Text.isBlank c = false ∧
    inHead c = false ∧
      isAsciiNameStart c = false := by
  have inQualifier : ∀ c ∈ member.qualifier, inClass c = true :=
    fun c inside => includes c (member.inQualifier c inside)
  rw [qualifiedText, find?_append_of_skipped inQualifier, name]
  split
  · exact ⟨'~', by simp [noMark], by decide⟩
  · have inBase : ∀ c ∈ member.base.text, inClass c = true :=
      fun c inside => includes c (member.base.wordOr_text _ c inside)
    rw [find?_append_of_skipped inBase]
    exact ⟨'(', by simp [signature, noParenthesis], by decide⟩

theorem text_of_head_nil (bare : member.head = []) : member.text = member.qualifiedText := by
  simp [text, headText, bare]

/-- The parameters of a template are not read at the start of the line. -/
theorem template_unread :
    (Pattern.text "template" ++ blanks ++ char '<' ++ many (noneOf ['>']) ++ char '>' ++
      blanks).Unread member.text := by
  have unread : (Pattern.text "template" ++ blanks ++ char '<').Unread member.text := by
    cases leads : member.head with
    | nil =>
      obtain ⟨c, ahead, notBlank, notInHead, -⟩ :=
        member.find?_qualifiedText (fun _ inside => inside) (by decide) (by decide)
      have notAngle : '<' ≠ c := by
        rintro rfl
        exact absurd notInHead (by decide)
      have keyword : "template".toList.find? (!wordOr [':'] ·) = none := by decide
      have angle : wordOr [':'] '<' = false := by decide
      rw [member.text_of_head_nil leads]
      refine unread_of_not_meets ?_ ahead ?_
      · simp only [passes_append, passes_char, angle]
        simp
      · simp only [meets_append, meets_text, keyword]
        simp [notBlank, notAngle]
    | cons word words =>
      obtain ⟨d, rest, same, isWord⟩ := member.exists_token leads
      rintro before _ others captures kept split
        ⟨_, _, _, rfl, ⟨_, gap, _, rfl, ⟨rfl, _⟩, ⟨blank, _⟩⟩, ⟨rfl, _⟩⟩
      have visible : ∀ c ∈ "template".toList, Text.isBlank c = false := by decide
      have spelled :
          word.text ++ ' ' :: d :: rest = "template".toList ++ (gap ++ '<' :: others) := by
        rw [← same, split]
        simp
      rcases prefix_token_of_sign word.isBlank visible blank (by decide)
        (Text.isBlank_eq_false_of_isWord isWord) spelled with
        inWord | rfl
      · exact member.notTemplate word (by simp [leads]) inWord
      · exact absurd isWord (by decide)
  exact ((unread.append _).append _).append _

private theorem templateHead_skips : templateHead.Skips member.text :=
  member.template_unread.skips_optional

/-- No word that declares a type stands at the start of the line. -/
theorem not_leads_typeKeyword {keyword : String}
    (declares : keyword ∈ ["class", "struct", "union", "enum"]) {c : Char}
    (blank : Text.isBlank c = true) (more : List Char) :
    member.text ≠ keyword.toList ++ c :: more := by
  intro same
  have plain :
      ∀ keyword ∈ ["class", "struct", "union", "enum"], isStatementKeyword keyword.toList = true ∧
      ∀ c ∈ keyword.toList, Text.isWord c = true := by decide
  obtain ⟨reserved, isWord⟩ := plain keyword declares
  cases leads : member.head with
  | nil =>
    obtain ⟨d, ahead, notBlank, -⟩ :=
      member.find?_qualifiedText (fun _ inside => inside) (by decide) (by decide)
    have inClass : ∀ c ∈ keyword.toList, wordOr [':'] c = true :=
      fun c inside => by simp [wordOr, isWord c inside]
    have edge : wordOr [':'] c = false := wordOr_eq_false_of_isBlank (by decide) blank
    rw [← member.text_of_head_nil leads, same, find?_append_of_skipped inClass,
      List.find?_cons_of_pos (by simp [edge])] at ahead
    obtain rfl := Option.some.inj ahead
    rw [blank] at notBlank
    cases notBlank
  | cons word words =>
    obtain ⟨d, rest, split, -⟩ := member.exists_token leads
    have visible : ∀ c ∈ keyword.toList, Text.isBlank c = false :=
      fun c inside => Text.isBlank_eq_false_of_isWord (isWord c inside)
    have leading := eq_token_of_blank word.isBlank visible blank (split.symm.trans same)
    rw [leading] at reserved
    exact absurd reserved (by simp [HeadWord.text, word.notKeyword])

theorem classes_find? : classes.pattern.find? member.text = none := by
  have enumeration : "enum" ∈ ["class", "struct", "union", "enum"] := by decide
  have unread :
      (((Pattern.text "enum" ++ blanks1 ++ anyText ["class", "struct"]) <|>
        anyText ["class", "struct", "union", "enum"]) ++
      blanks1).Unread member.text := by
    rintro before _ rest captures kept split ⟨keyword, gap, _, rfl, readKeyword, readGap⟩
    rcases readKeyword with ⟨_, kind, _, rfl, ⟨_, space, _, rfl, ⟨rfl, _⟩, readSpace⟩, _⟩ | readWord
    · obtain ⟨nonempty, blank, _⟩ := readSpace.of_many1
      obtain ⟨c, more, rfl⟩ := List.exists_cons_of_ne_nil nonempty
      refine member.not_leads_typeKeyword enumeration (blank c List.mem_cons_self)
        (more ++ (kind ++ (gap ++ rest))) ?_
      rw [split]
      simp
    · obtain ⟨written, listed, rfl⟩ := readWord.eq_of_anyText
      obtain ⟨nonempty, blank, _⟩ := readGap.of_many1
      obtain ⟨c, more, rfl⟩ := List.exists_cons_of_ne_nil nonempty
      refine member.not_leads_typeKeyword listed (blank c List.mem_cons_self) (more ++ rest) ?_
      rw [split]
      simp
  have leading :=
    (((skips_lineStart member.text).append member.templateHead_skips).append_unread unread).assoc
  exact (((((((leading.append _).append _).append _).append _).append _).append _).append
    _).find?_eq_none trivial

/-- With a word in front of the name, the line does not start with a name that parameters follow. -/
theorem constructors_find? (led : member.head ≠ []) :
    constructors.pattern.find? member.text = none := by
  obtain ⟨word, words, leads⟩ := List.exists_cons_of_ne_nil led
  obtain ⟨d, others, same, isWord⟩ := member.exists_token leads
  have unread :
      (lineStart ++ capture .owner qualification ++ capture .name memberName ++ blanks ++
        char '(').Unread member.text := by
    rintro before _ rest captures kept split ⟨_, _, _, rfl,
      ⟨_, gap, _, rfl, ⟨_, named, _, rfl, ⟨_, owner, _, rfl, ⟨⟨rfl, _⟩, _⟩,
      ⟨_, readOwner, _⟩⟩, ⟨_, readName, _⟩⟩, ⟨blank, _⟩⟩, ⟨rfl, _⟩⟩
    have visible : ∀ c ∈ owner ++ named, Text.isBlank c = false := List.forall_mem_append.mpr
      ⟨readOwner.within qualified_within.1, readName.within qualified_within.2⟩
    have spelled : word.text ++ ' ' :: d :: others = (owner ++ named) ++ (gap ++ '(' :: rest) := by
      rw [← same, split]
      simp
    rcases prefix_token_of_sign word.isBlank visible blank (by decide)
      (Text.isBlank_eq_false_of_isWord isWord) spelled with
      ⟨left, inWord⟩ | rfl
    · have inside : '(' ∈ word.text := by simp [← inWord]
      exact absurd (word.inText '(' inside) (by decide)
    · exact absurd isWord (by decide)
  exact (((((((unread.append _).append _).append _).append _).append _).append _).append
    _).find?_eq_none trivial

/-- From the name on, white space comes no earlier than the parameters. -/
theorem headPiece_unread : headPiece.Unread member.qualifiedText := by
  obtain ⟨c, ahead, notBlank, notInHead, notStart⟩ :=
    member.find?_qualifiedText (fun _ inside => wordOr_of_subset (by decide) inside)
      (by decide : inHead '~' = false) (by decide)
  refine unread_of_not_meets ?_ ahead (by simp [notBlank, notInHead, notStart])
  rintro ⟨-, ⟨d, blank, inside⟩, -⟩
  rw [isBlank_of_wordOr (by decide) inside] at blank
  cases blank

section Bare

variable (bare : member.head = [])

include bare

theorem function_find? : function.pattern.find? member.text = none := by
  have unread : (capture .head (repeated1 headPiece)).Unread member.text := by
    rw [member.text_of_head_nil bare]
    exact (member.headPiece_unread.append _).capture .head
  have leading :=
    ((skips_lineStart member.text).append member.templateHead_skips).append_unread unread
  exact ((((((((((leading.append _).append _).append _).append _).append _).append _).append
    _).append _).append _).append _).find?_eq_none trivial

theorem plainVariables_find? : plainVariables.pattern.find? member.text = none := by
  obtain ⟨c, ahead, notBlank, notInHead, -⟩ :=
    member.find?_qualifiedText (fun _ inside => inside) (by decide) (by decide)
  have outside :
      Text.isWord c = false ∧ c ≠ ':' ∧ c ≠ '<' ∧ c ≠ '>' ∧ c ≠ ',' ∧ c ≠ '*' ∧ c ≠ '&' := by
    simpa [wordOr] using notInHead
  obtain ⟨notWord, notColon, notAngle, -, -, notStar, notAmpersand⟩ := outside
  have unread : (lineStart ++ repeated (anyText qualifiers ++ blanks1) ++
      capture .type (many1 (wordOr [':']) ++ optional
        (char '<' ++ many (noneOf [';', '=', '(', ')']) ++ char '>')) ++
      ((blanks ++ many1 (oneOf ['*', '&']) ++ blanks) <|> blanks1)).Unread member.text := by
    rw [member.text_of_head_nil bare]
    have allWords : ∀ word ∈ qualifiers, word.toList.find? (!wordOr [':'] ·) = none := by decide
    have angle : Text.isWord '<' = false := by decide
    refine unread_of_not_meets ?_ ahead ?_
    · rintro ⟨-, ⟨⟨-, ⟨d, pointer, inside⟩, -⟩, -⟩ | ⟨⟨d, blank, inside⟩, -⟩⟩
      · have sign : d = '*' ∨ d = '&' := by simpa [oneOf] using pointer
        rcases sign with rfl | rfl
        · exact absurd inside (by decide)
        · exact absurd inside (by decide)
      · rw [isBlank_of_wordOr (by decide) inside] at blank
        cases blank
    · simp [not_meets_anyText qualifiers allWords, notBlank, wordOr, oneOf, notWord, notColon,
        notAngle.symm, notStar, notAmpersand, angle]
  exact (((((unread.append _).append _).append _).append _).append _).find?_eq_none trivial

end Bare

end OutOfLineMember

end Rules.Cpp

end Symtab
