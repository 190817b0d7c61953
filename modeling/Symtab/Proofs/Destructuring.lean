import Mathlib.Data.List.Chain
import Symtab.Proofs.JavaScriptLines
import Symtab.Proofs.NameLists
import Symtab.Proofs.WordGaps

/-!
# Destructuring

A JavaScript line that takes an object or an array apart binds a local name for each piece of its
list. A piece may name the key it is taken from, give a default value or collect what is left, and
the local names are what is reported, in order and in the scope of the line.
-/

set_option autoImplicit false

namespace Symtab

namespace Text

private theorem dropLeading_append {leading : List Char} (nonempty : leading ≠ [])
    (text : List Char) :
    dropLeading leading (leading ++ text) = dropLeading leading text := by
  rw [dropLeading, dif_pos ⟨nonempty, by simp⟩, List.drop_left]

private theorem dropLeading_of_not_prefix {leading text : List Char}
    (other : leading.isPrefixOf text = false) :
    dropLeading leading text = text := by
  rw [dropLeading, dif_neg (by simp [other])]

end Text

namespace Rules.JavaScript

open Pattern

/-!
## Lines
-/

/-- The words that declare local names. -/
inductive DeclaringWord where
  | letWord
  | constWord
  | varWord

namespace DeclaringWord

def written : DeclaringWord → String
  | letWord => "let"
  | constWord => "const"
  | varWord => "var"

/-- What a name is that the word declares. -/
def kind : DeclaringWord → Kind
  | constWord => .constant
  | letWord | varWord => .variable

theorem written_mem (keyword : DeclaringWord) : keyword.written ∈ ["let", "const", "var"] := by
  cases keyword <;> decide

theorem declaredKind_written (keyword : DeclaringWord) :
    declaredKind keyword.written.toList = keyword.kind := by
  cases keyword <;> rfl

/-- The word as a name. -/
def word (keyword : DeclaringWord) : AsciiWord where
  text := keyword.written.toList
  nonempty := by cases keyword <;> decide
  ascii := by cases keyword <;> decide

end DeclaringWord

/-- A name that a line can bind: ASCII letters, digits, underscores and dollar signs. -/
structure LocalName where
  text : List Char
  nonempty : text ≠ []
  allowed : ∀ c ∈ text, isAsciiWord c = true ∨ c = '$'

/-- What stands in front of a bound name: nothing, the key of the property it is taken from, or the
dots of a rest element. -/
inductive Lead where
  | nothing
  | key (name : AsciiWord)
  | dots

/-- A piece of a destructuring list, with the default value if it has one. -/
structure Binding where
  lead : Lead
  target : LocalName
  fallback : Option AsciiWord

inductive Brackets where
  | braces
  | square

def Brackets.opening : Brackets → Char
  | braces => '{'
  | square => '['

def Brackets.closing : Brackets → Char
  | braces => '}'
  | square => ']'

def Lead.text : Lead → List Char
  | nothing => []
  | key name => name.text ++ ": ".toList
  | dots => "...".toList

namespace Binding

/-- The default value as it is written behind the name. -/
def tail (binding : Binding) : List Char :=
  match binding.fallback with
  | none => []
  | some value => " = ".toList ++ value.text

def text (binding : Binding) : List Char :=
  binding.lead.text ++ (binding.target.text ++ binding.tail)

/-- Pieces with commas between them. -/
def listText (first : Binding) (others : List Binding) : List Char :=
  first.text ++ others.flatMap fun binding => ", ".toList ++ binding.text

end Binding

/-- Something in brackets and the value it is taken from. -/
def bracketed (brackets : Brackets) (body : List Char) (value : AsciiWord) : List Char :=
  brackets.opening :: (body ++ brackets.closing :: ' ' :: '=' :: ' ' :: (value.text ++ [';']))

/-- A line that binds the names of a list in brackets, whatever is written in the brackets. -/
def bracketLine (keyword : DeclaringWord) (brackets : Brackets) (body : List Char)
    (value : AsciiWord) : List Char :=
  keyword.written.toList ++ ' ' :: bracketed brackets body value

/-- A destructuring line. -/
structure Destructuring where
  keyword : DeclaringWord
  brackets : Brackets
  first : Binding
  others : List Binding
  value : AsciiWord

namespace Destructuring

/-- What stands in the brackets. -/
def body (line : Destructuring) : List Char :=
  ' ' :: (Binding.listText line.first line.others ++ [' '])

def text (line : Destructuring) : List Char :=
  bracketLine line.keyword line.brackets line.body line.value

/-- The local names, in order. -/
def targets (line : Destructuring) : List LocalName :=
  (line.first :: line.others).map (·.target)

end Destructuring

/-- The symbol of a name that a line with the keyword declares in the current scope. -/
def localSymbol (keyword : DeclaringWord) (context : Context) (number : Nat) (name : List Char) :
    Symbol where
  name := String.ofList name
  kind := keyword.kind
  scope := context.scopes.current
  line := number
  language := .javascript

/-!
## Names
-/

namespace LocalName

variable (name : LocalName)

theorem wordOr_text : ∀ c ∈ name.text, wordOr ['$'] c = true := by
  intro c member
  rcases name.allowed c member with ascii | rfl
  · simp [wordOr, isWord_of_isAsciiWord ascii]
  · rfl

theorem isBlank : ∀ c ∈ name.text, Text.isBlank c = false :=
  fun c member => isBlank_of_wordOr (by decide) (name.wordOr_text c member)

theorem not_mem {c : Char} (outside : isAsciiWord c = false) (notDollar : c ≠ '$') :
    c ∉ name.text := by
  intro member
  rcases name.allowed c member with ascii | same
  · rw [ascii] at outside
    cases outside
  · exact notDollar same

private theorem isPlainLocal_text : isPlainLocal name.text = true := by
  rw [isPlainLocal, List.all_eq_true]
  intro c member
  rcases name.allowed c member with ascii | rfl
  · rw [isIdentifierChar_of_isAsciiWord ascii, Bool.true_or]
  · decide

theorem declaration_of? (scope : String) (kind : Kind) :
    Declaration.of? scope kind name.text =
      some { name := String.ofList name.text, kind, scope } := by
  have noQuote : ∀ c ∈ name.text, isQuote c = false :=
    fun c member => isQuote_of_wordOr (by decide) (name.wordOr_text c member)
  rw [Declaration.of?, cleanName?_of_clean name.nonempty name.isBlank noQuote]
  rfl

end LocalName

/-!
## Pieces of the list
-/

private theorem trim_between_gaps (before after : Gap) {text : List Char}
    (visible : ∀ c ∈ text, Text.isBlank c = false) :
    Text.trim (before.text ++ (text ++ after.text)) = text := by
  rw [Text.trim, Text.strip_append before.blank, Text.strip_append_right after.blank,
    Text.strip_of_outside visible]

/-- What is left of the lead once the key is cut off. -/
def Lead.mark : Lead → List Char
  | nothing | key _ => []
  | dots => "...".toList

theorem Lead.afterLast_text (lead : Lead) (before : Gap) {rest : List Char} (absent : ':' ∉ rest) :
    ∃ gap : Gap, Text.afterLast ':' (before.text ++ (lead.text ++ rest)) =
      gap.text ++ (lead.mark ++ rest) := by
  have notInGap : ':' ∉ before.text := fun member => absurd (before.blank ':' member) (by decide)
  cases lead with
  | nothing => exact ⟨before, Text.afterLast_of_not_mem (by simp [Lead.text, notInGap, absent])⟩
  | dots => exact ⟨before, Text.afterLast_of_not_mem (by simp [Lead.text, notInGap, absent])⟩
  | key name =>
    have split :
        before.text ++ ((key name).text ++ rest) =
          (before.text ++ name.text) ++ ':' :: ' ' :: rest := by
      simp [Lead.text]
    refine ⟨⟨[' '], Text.isBlank_space⟩, ?_⟩
    rw [split, Text.afterLast_append_cons _ (by simpa using absent)]
    rfl

private theorem dropLeading_mark (lead : Lead) (name : LocalName) :
    Text.dropLeading "...".toList (lead.mark ++ name.text) = name.text := by
  have bare : Text.dropLeading "...".toList name.text = name.text := by
    obtain ⟨c, rest, split⟩ := List.exists_cons_of_ne_nil name.nonempty
    have notDot : '.' ≠ c := fun same =>
      name.not_mem (c := '.') (by decide) (by decide)
        (by rw [split, same]; exact List.mem_cons_self)
    exact Text.dropLeading_of_not_prefix (by simp [split, List.isPrefixOf, notDot])
  cases lead with
  | nothing => exact bare
  | key _ => exact bare
  | dots => exact (Text.dropLeading_append (by decide) _).trans bare

namespace Binding

private theorem declarationHead_text (binding : Binding) (before after : Gap) :
    ∃ gap : Gap, declarationHead (before.text ++ (binding.text ++ after.text)) =
      before.text ++ (binding.lead.text ++ (binding.target.text ++ gap.text)) := by
  have inGap (gap : Gap) : '=' ∉ gap.text := fun member => absurd (gap.blank '=' member) (by decide)
  have inLead : '=' ∉ binding.lead.text := by
    cases binding.lead with
    | nothing => decide
    | key name => simp [Lead.text, name.not_mem (c := '=') (by decide)]
    | dots => decide
  have inTarget : '=' ∉ binding.target.text := binding.target.not_mem (by decide) (by decide)
  cases given : binding.fallback with
  | none =>
    refine ⟨after, ?_⟩
    have spelled : binding.text = binding.lead.text ++ binding.target.text := by
      simp [text, tail, given]
    rw [declarationHead, spelled, List.append_assoc, List.takeWhile_eq_self_iff]
    intro c member
    rw [bne_iff_ne]
    rintro rfl
    simp [inGap, inLead, inTarget] at member
  | some value =>
    refine ⟨⟨[' '], Text.isBlank_space⟩, ?_⟩
    have spelled : before.text ++ (binding.text ++ after.text) =
        (before.text ++ (binding.lead.text ++ (binding.target.text ++ [' ']))) ++
          '=' :: ' ' :: (value.text ++ after.text) := by
      simp [text, tail, given]
    rw [spelled, declarationHead_append (by simp [inGap, inLead, inTarget])]

theorem boundLocal_text (binding : Binding) (before after : Gap) :
    boundLocal (before.text ++ (binding.text ++ after.text)) = binding.target.text := by
  obtain ⟨behind, head⟩ := binding.declarationHead_text before after
  have noColon : ':' ∉ binding.target.text ++ behind.text := by
    have notInGap : ':' ∉ behind.text := fun member => absurd (behind.blank ':' member) (by decide)
    simp [notInGap, binding.target.not_mem (c := ':') (by decide) (by decide)]
  obtain ⟨leading, cut⟩ := binding.lead.afterLast_text before noColon
  have visible : ∀ c ∈ binding.lead.mark ++ binding.target.text, Text.isBlank c = false := by
    refine List.forall_mem_append.mpr ⟨?_, binding.target.isBlank⟩
    cases binding.lead with
    | nothing => decide
    | key name => exact List.forall_mem_nil _
    | dots => decide
  rw [boundLocal, head, cut, ← List.append_assoc binding.lead.mark,
    trim_between_gaps leading behind visible]
  exact dropLeading_mark binding.lead binding.target

/-- The signs between the words of a piece. -/
theorem allowed_text (binding : Binding) :
    ∀ c ∈ binding.text, isAsciiWord c = true ∨ c ∈ ['$', ':', ' ', '.', '='] := by
  have inLead : ∀ c ∈ binding.lead.text, isAsciiWord c = true ∨ c ∈ ['$', ':', ' ', '.', '='] := by
    cases binding.lead with
    | nothing => exact List.forall_mem_nil _
    | key name =>
      exact List.forall_mem_append.mpr ⟨fun c member => .inl (name.ascii c member), by decide⟩
    | dots => decide
  have inTarget :
      ∀ c ∈ binding.target.text, isAsciiWord c = true ∨ c ∈ ['$', ':', ' ', '.', '='] := by
    intro c member
    exact (binding.target.allowed c member).imp_right fun same => by simp [same]
  refine List.forall_mem_append.mpr ⟨inLead, List.forall_mem_append.mpr ⟨inTarget, ?_⟩⟩
  rw [tail]
  cases binding.fallback with
  | none => exact List.forall_mem_nil _
  | some value =>
    exact List.forall_mem_append.mpr ⟨by decide, fun c member => .inl (value.ascii c member)⟩

theorem not_mem_text (binding : Binding) {c : Char} (outside : isAsciiWord c = false)
    (otherSign : c ∉ ['$', ':', ' ', '.', '=']) : c ∉ binding.text := by
  intro member
  rcases binding.allowed_text c member with ascii | sign
  · rw [ascii] at outside
    cases outside
  · exact otherSign sign

private theorem not_mem_listText {c : Char} (outside : isAsciiWord c = false)
    (otherSign : c ∉ [',', '$', ':', ' ', '.', '=']) (first : Binding) (others : List Binding) :
    c ∉ listText first others := by
  obtain ⟨notComma, otherSign⟩ := List.ne_and_not_mem_of_not_mem_cons otherSign
  have notSpace : c ≠ ' ' := by
    rintro rfl
    exact otherSign (by decide)
  simp [listText, not_mem_text _ outside otherSign, notComma, notSpace]

/-- Cutting a list at its commas gives back what its pieces bind. -/
theorem map_boundLocal_listText (before after : Gap) (first : Binding) (others : List Binding) :
    ((before.text ++ (listText first others ++ after.text)).splitOn ',').map boundLocal =
      (first :: others).map (·.target.text) := by
  have notInGap (gap : Gap) : ',' ∉ gap.text :=
    fun member => absurd (gap.blank ',' member) (by decide)
  have comma (binding : Binding) : ',' ∉ binding.text :=
    binding.not_mem_text (by decide) (by decide)
  induction others generalizing before first with
  | nil =>
    have single : listText first [] = first.text := List.append_nil _
    rw [single, List.splitOn_eq_singleton (by simp [notInGap, comma]), List.map_singleton,
      first.boundLocal_text before after]
    rfl
  | cons next others ih =>
    have split : before.text ++ (listText first (next :: others) ++ after.text) =
        (before.text ++ first.text) ++ ',' :: ([' '] ++ (listText next others ++ after.text)) := by
      simp [listText]
    have alone := first.boundLocal_text before ⟨[], List.forall_mem_nil _⟩
    rw [List.append_nil] at alone
    rw [split, List.splitOn_append_cons_self, List.splitOn_eq_singleton (by simp [notInGap, comma]),
      List.map_append, List.map_singleton, alone, ih ⟨[' '], Text.isBlank_space⟩]
    rfl

/-!
## Words and dots of the list
-/

private theorem wordsApart_text (binding : Binding) : WordsApart binding.text := by
  have target : WordsApart binding.target.text := .of_visible binding.target.isBlank
  have behind : WordsApart (binding.target.text ++ binding.tail) := by
    rw [tail]
    cases binding.fallback with
    | none => rwa [List.append_nil]
    | some value =>
      have split : binding.target.text ++ (" = ".toList ++ value.text) =
          (binding.target.text ++ [' ']) ++ '=' :: ' ' :: value.text := by simp
      rw [split]
      exact (target.concat (by decide)).append_cons (by decide) (by decide)
        ((WordsApart.of_visible value.isBlank).cons (by decide))
  rw [text]
  cases binding.lead with
  | nothing => exact behind
  | key name =>
    have split : (Lead.key name).text ++ (binding.target.text ++ binding.tail) =
        name.text ++ ':' :: ' ' :: (binding.target.text ++ binding.tail) := by simp [Lead.text]
    rw [split]
    exact (WordsApart.of_visible name.isBlank).append_cons (by decide) (by decide)
      (behind.cons (by decide))
  | dots => exact ((behind.cons (by decide)).cons (by decide)).cons (by decide)

private theorem wordsApart_listText (first : Binding) (others : List Binding) :
    WordsApart (listText first others) := by
  induction others generalizing first with
  | nil => simpa [listText] using first.wordsApart_text
  | cons next others ih =>
    have split :
        listText first (next :: others) = first.text ++ ',' :: ' ' :: listText next others := by
      simp [listText]
    rw [split]
    exact first.wordsApart_text.append_cons (by decide) (by decide) ((ih next).cons (by decide))

end Binding

/-- No dot stands right behind a word. -/
def DotsApart (line : List Char) : Prop :=
  line.IsChain fun c d => d = '.' → Text.isWord c = false

namespace DotsApart

theorem of_not_mem {line : List Char} (absent : '.' ∉ line) : DotsApart line := by
  induction line with
  | nil => exact .nil
  | cons c rest ih =>
    obtain ⟨-, later⟩ := List.ne_and_not_mem_of_not_mem_cons absent
    refine List.isChain_cons.mpr ⟨fun d next same => absurd (List.mem_of_head? next) ?_, ih later⟩
    rwa [same]

theorem append {start finish : List Char} (before : DotsApart start) (behind : DotsApart finish)
    (edge : (∀ c ∈ start.getLast?, Text.isWord c = false) ∨ '.' ∉ finish.head?) :
    DotsApart (start ++ finish) := by
  refine List.isChain_append.mpr ⟨before, behind, fun c last d next isDot => ?_⟩
  rcases edge with noWord | noDot
  · exact noWord c last
  · exact absurd (isDot ▸ next) noDot

end DotsApart

private theorem thisProperty_find? {line : List Char} (apart : DotsApart line) :
    thisProperty.pattern.find? line = none := by
  cases matched : thisProperty.pattern.find? line with
  | none => rfl
  | some found =>
    obtain ⟨before, text, rest, kept, rfl, reads, _⟩ := isMatch_of_find? matched
    obtain ⟨_, sign, _, rfl, ⟨_, gap, _, rfl, ⟨_, name, _, rfl, ⟨edge, _, _, rfl, _, ⟨rfl, _⟩⟩, _⟩,
      _⟩, _⟩ := reads
    have owner : DotsApart ['s', '.'] :=
      apart.infix ⟨before.reverse ++ (edge ++ "thi".toList),
        name ++ (gap ++ (sign ++ rest)), by simp⟩
    exact absurd (List.isChain_pair.mp owner rfl) (by decide)

namespace Binding

private theorem dotsApart_text (binding : Binding) : DotsApart binding.text := by
  have inTail : '.' ∉ binding.tail := by
    rw [tail]
    cases binding.fallback with
    | none => exact List.not_mem_nil
    | some value => simp [value.not_mem (c := '.') (by decide)]
  have behind : '.' ∉ binding.target.text ++ binding.tail := by
    simp [inTail, binding.target.not_mem (c := '.') (by decide) (by decide)]
  rw [text]
  cases binding.lead with
  | nothing => exact .of_not_mem behind
  | key name =>
    have absent : '.' ∉ (Lead.key name).text := by
      simp [Lead.text, name.not_mem (c := '.') (by decide)]
    exact .of_not_mem (by rw [List.mem_append]; exact fun member => member.elim absent behind)
  | dots =>
    have marks : DotsApart Lead.dots.text := by simp +decide [DotsApart]
    exact marks.append (.of_not_mem behind) (.inl (by decide))

private theorem dotsApart_listText (first : Binding) (others : List Binding) :
    DotsApart (listText first others) := by
  induction others generalizing first with
  | nil => simpa [listText] using first.dotsApart_text
  | cons next others ih =>
    have split :
        listText first (next :: others) = first.text ++ (", ".toList ++ listText next others) := by
      simp [listText]
    rw [split]
    exact first.dotsApart_text.append
      ((DotsApart.of_not_mem (by decide)).append (ih next) (.inl (by decide))) (.inr (by simp))

end Binding

/-!
## Lines that start with the keyword
-/

section Keyword

variable (keyword : DeclaringWord)

/-- What stands in front of a sign is no name that is assigned to. -/
theorem field_find?_sign {sign : Char} (visible : Text.isBlank sign = false)
    (outside : Text.isWord sign = false) (otherSign : sign ∉ ['#', '=', ';']) (rest : List Char) :
    field.pattern.find? (keyword.written.toList ++ ' ' :: sign :: rest) = none := by
  have anchored : field.pattern.Anchored := trivial
  have skipped : ∀ c ∈ keyword.written.toList, (Text.isWord c || Text.isBlank c) = true := by
    cases keyword <;> decide
  have ahead :
      (keyword.written.toList ++ ' ' :: sign :: rest).find?
        (!(fun c => Text.isWord c || Text.isBlank c) ·) =
      some sign := by
    rw [find?_append_of_skipped skipped]
    simp +decide [visible, outside]
  simp only [List.mem_cons, List.not_mem_nil, or_false, not_or] at otherSign
  refine anchored.find?_eq_none (blocked_of_not_meets ?_ ahead ?_)
  · simp only [field]
    simp +decide
  · simp only [field, memberName]
    simp +decide [visible, outside, otherSign, Ne.symm]

theorem classes_find?_keyword {rest : List Char} (apart : WordsApart rest) :
    classes.pattern.find? (keyword.written.toList ++ ' ' :: rest) = none := by
  have isKeyword :
      ∀ before text others captures kept,
        (Pattern.text "class").Reads before text others captures kept →
      ∃ written ∈ ["class"], text = written.toList :=
    fun _ _ _ _ _ reads => ⟨"class", List.mem_singleton_self _, reads.1⟩
  refine find?_eq_none_of_not_leadsWord isKeyword (by decide) fun word isClass leads => ?_
  rcases LeadsWord.of_word_space keyword.word.toWord leads with rfl | behind
  · revert isClass
    cases keyword <;> decide
  · exact apart word behind

/-- The checks look for a name at the start of the line or a call, or for a dot right behind a
word. -/
theorem checks_find?_keyword {rest : List Char} (noParen : '(' ∉ rest) (dots : DotsApart rest) :
    ∀ rule ∈ table.checks, rule.pattern.find? (keyword.written.toList ++ ' ' :: rest) = none := by
  have noStatic : staticProperty.pattern.find? (keyword.written.toList ++ ' ' :: rest) = none := by
    have anchored : staticProperty.pattern.Anchored := trivial
    refine anchored.find?_eq_none
      (keyword.word.blocked_of_next ?_ (fun c member => ?_) [] (' ' :: rest))
    · simp only [staticProperty]
      simp
    · have lower : ∀ c ∈ keyword.word.text, c.isUpper = false := by cases keyword <;> decide
      simp only [staticProperty]
      simp [lower c member]
  have noPrototype :
      prototypeMethod.pattern.find? (keyword.written.toList ++ ' ' :: rest) = none := by
    have anchored : prototypeMethod.pattern.Anchored := trivial
    refine anchored.find?_eq_none
      (keyword.word.blocked_of_break ?_ (c := ' ') (by decide) ?_ [] rest)
    · simp only [prototypeMethod]
      simp +decide
    · simp only [prototypeMethod]
      simp +decide
  have inLine : '(' ∉ keyword.written.toList ++ ' ' :: rest := by
    have inKeyword : '(' ∉ keyword.written.toList := keyword.word.not_mem (by decide)
    simp [inKeyword, noParen]
  have apart : DotsApart (keyword.written.toList ++ [' '] ++ rest) :=
    .append (.of_not_mem (by cases keyword <;> decide)) dots (.inl (by simp; decide))
  simp only [table, List.forall_mem_cons]
  refine ⟨thisProperty_find? (by simpa using apart), noStatic, noPrototype,
    find?_of_no_paren inLine _ (by simp), by simp⟩

end Keyword

/-!
## Steps
-/

section Bracketed

variable {body : List Char} (nonempty : body ≠ []) (plain : ∀ c ∈ ['(', '}', ']'], c ∉ body)

include nonempty plain in
private theorem destructuring_finds (keyword : DeclaringWord) (brackets : Brackets)
    (value : AsciiWord) :
    destructuring.pattern.Finds (bracketLine keyword brackets body value)
      [(.names, body), (.keyword, keyword.written.toList)] := by
  have opens : oneOf ['{', '['] brackets.opening = true := by cases brackets <;> decide
  have notBlank : Text.isBlank brackets.opening = false := by cases brackets <;> decide
  have closes : oneOf ['}', ']'] brackets.closing = true := by cases brackets <;> decide
  have inside : ∀ c ∈ body, noneOf ['}', ']'] c = true := by
    intro c member
    have notBrace : c ≠ '}' := fun same => plain '}' (by decide) (same ▸ member)
    have notBracket : c ≠ ']' := fun same => plain ']' (by decide) (same ▸ member)
    simp [noneOf, notBrace, notBracket]
  have stops : noneOf ['}', ']'] brackets.closing = false := by cases brackets <;> decide
  have opened (rest : List Char) :=
    ((takes_declaringWord keyword.written_mem (brackets.opening :: rest)).append
    (takes_blanks_space (stops_before notBlank rest) _ _)).append (takes_one opens _ rest _)
  have listed (rest : List Char) := (opened (body ++ brackets.closing :: rest)).append
    ((takes_many1 nonempty inside (stops_before stops rest) _ _).capture .names)
  exact ((((listed _).append (takes_one closes _ _ _)).append
    (takes_blanks_space (stops_before (c := '=') (by decide) _) _ _)).append
      (takes_literal ['='] _ _ _)).finds

private theorem not_mem_bracketed {c : Char} (outside : isAsciiWord c = false)
    (otherSign : c ∉ ['{', '[', '}', ']', ' ', '=', ';']) (absent : c ∉ body) (brackets : Brackets)
    (value : AsciiWord) : c ∉ bracketed brackets body value := by
  simp only [List.mem_cons, List.not_mem_nil, or_false, not_or] at otherSign
  have notBracket : c ≠ brackets.opening ∧ c ≠ brackets.closing := by
    cases brackets with
    | braces => exact ⟨otherSign.1, otherSign.2.2.1⟩
    | square => exact ⟨otherSign.2.1, otherSign.2.2.2.1⟩
  simp [bracketed, absent, value.not_mem outside, notBracket, otherSign]

variable (words : WordsApart body) (dots : DotsApart body)

include words in
private theorem wordsApart_bracketed (brackets : Brackets) (value : AsciiWord) :
    WordsApart (bracketed brackets body value) := by
  have opening : Text.isWord brackets.opening = false := by cases brackets <;> decide
  have closing : Text.isBlank brackets.closing = false ∧ Text.isWord brackets.closing = false := by
    cases brackets <;> decide
  have last : WordsApart (value.text ++ [';']) :=
    (WordsApart.of_visible value.isBlank).concat (by decide)
  exact (words.append_cons closing.1 closing.2
    (((last.cons (by decide)).cons (by decide)).cons (by decide))).cons opening

include dots in
private theorem dotsApart_bracketed (brackets : Brackets) (value : AsciiWord) :
    DotsApart (bracketed brackets body value) := by
  have notDot : brackets.opening ≠ '.' ∧ brackets.closing ≠ '.' := by cases brackets <;> decide
  have opening : DotsApart [brackets.opening] := .of_not_mem (by simpa using notDot.1.symm)
  have opened : DotsApart ([brackets.opening] ++ body) :=
    opening.append dots (.inl (by cases brackets <;> decide))
  have closed : DotsApart (brackets.closing :: ' ' :: '=' :: ' ' :: (value.text ++ [';'])) :=
    .of_not_mem (by simp [notDot.2.symm, value.not_mem (c := '.') (by decide)])
  exact opened.append closed (.inr (by simpa using notDot.2))

variable {targets : List LocalName}
    (bound : (body.splitOn ',').map boundLocal = targets.map (·.text))
  (someTarget : targets ≠ [])

include bound in
private theorem destructuring_effect? (keyword : DeclaringWord) (line : List Char)
    (context : Context) :
    destructuring.effect? [(.names, body), (.keyword, keyword.written.toList)] line context =
      some (Effect.ofDeclarations (targets.map fun target =>
        { name := String.ofList target.text, kind := keyword.kind,
          scope := context.scopes.current })) := by
  have allPlain : (targets.map (·.text)).filter isPlainLocal = targets.map (·.text) := by
    simp [List.filter_eq_self, LocalName.isPlainLocal_text]
  change some (Effect.ofDeclarations
    ((((body.splitOn ',').map boundLocal).filter isPlainLocal).filterMap
    (Declaration.of? context.scopes.current (declaredKind keyword.written.toList)))) = _
  rw [bound, allPlain, keyword.declaredKind_written, List.filterMap_map]
  simp [LocalName.declaration_of?]

include nonempty plain words dots bound someTarget in
/-- A line that takes something apart adds the local names of its list and changes nothing else. -/
theorem step_bracketLine (keyword : DeclaringWord) (brackets : Brackets) (value : AsciiWord)
    (number : Nat) (context : Context) :
    context.step .javascript ⟨number, bracketLine keyword brackets body value⟩ =
      context.adding (targets.map fun target =>
        localSymbol keyword context number target.text) := by
  have noParen : '(' ∉ bracketed brackets body value :=
    not_mem_bracketed (by decide) (by decide) (plain '(' (by decide)) _ _
  have inLine : '(' ∉ bracketLine keyword brackets body value := by
    have inKeyword : '(' ∉ keyword.written.toList := keyword.word.not_mem (by decide)
    simp [bracketLine, inKeyword, noParen]
  have notClosing : bracketLine keyword brackets body value ≠ ['}'] := by
    cases keyword <;> simp [bracketLine, DeclaringWord.written]
  have noField : field.pattern.find? (bracketLine keyword brackets body value) = none := by
    cases brackets <;> exact field_find?_sign keyword (by decide) (by decide) (by decide) _
  have earlier : ∀ rule ∈ [function, classes, constructors, method, field],
      rule.tryLine .javascript number (bracketLine keyword brackets body value) context =
        (context, false) := by
    refine fun rule member => Context.tryLine_of_find?_eq_none ?_
    revert rule
    simp only [List.forall_mem_cons]
    exact ⟨find?_of_no_paren inLine _ (by simp),
      classes_find?_keyword keyword (wordsApart_bracketed words brackets value),
      find?_of_no_paren inLine _ (by simp), find?_of_no_paren inLine _ (by simp), noField, by simp⟩
  have claims : (Effect.ofDeclarations (targets.map fun target =>
      ({ name := String.ofList target.text, kind := keyword.kind, scope := context.scopes.current } : Declaration))).claims =
        true := by
    simpa [Effect.ofDeclarations] using someTarget
  rw [Context.step_of_passed _ destructuring [plainVariables, imports] rfl earlier
    (checks_find?_keyword keyword noParen (dotsApart_bracketed dots brackets value))
    (destructuring_finds nonempty plain keyword brackets value)
      (destructuring_effect? bound keyword _ context) claims notClosing]
  simp [Context.apply, Context.adding, Effect.ofDeclarations, GroupChange.after, localSymbol,
    Declaration.toSymbol]

end Bracketed

/-- A line that assigns a word to what stands behind the keyword. -/
theorem isPrintedLine_assigned {text : List Char} (oneLine : '\n' ∉ text) (keyword : DeclaringWord)
    (value : AsciiWord) :
    IsPrintedLine .javascript
      (keyword.written.toList ++ ' ' :: (text ++ ' ' :: '=' :: ' ' :: (value.text ++ [';']))) := by
  have ends : ' ' :: (text ++ ' ' :: '=' :: ' ' :: (value.text ++ [';'])) =
      (' ' :: (text ++ ' ' :: '=' :: ' ' :: value.text)) ++ [';'] := by simp
  refine keyword.word.isPrintedLine_append rfl ?_ ?_
  · simp [oneLine, value.not_mem (c := '\n') (by decide)]
  · rw [ends, List.getLast?_concat]
    decide

theorem isPrintedLine_bracketLine {body : List Char} (oneLine : '\n' ∉ body)
    (keyword : DeclaringWord) (brackets : Brackets) (value : AsciiWord) :
    IsPrintedLine .javascript (bracketLine keyword brackets body value) := by
  have absent : '\n' ∉ brackets.opening :: (body ++ [brackets.closing]) := by
    cases brackets <;> simpa [Brackets.opening, Brackets.closing] using oneLine
  have printed := isPrintedLine_assigned absent keyword value
  rwa [List.cons_append, List.append_assoc, List.singleton_append] at printed

namespace Destructuring

variable (line : Destructuring)

private theorem not_mem_body : ∀ c ∈ ['(', '}', ']', '\n'], c ∉ line.body := by
  intro c member
  have outside : isAsciiWord c = false ∧ c ∉ [',', '$', ':', ' ', '.', '='] ∧ c ≠ ' ' := by
    revert c
    decide
  simp [body, Binding.not_mem_listText outside.1 outside.2.1, outside.2.2]

private theorem wordsApart_body : WordsApart line.body :=
  ((Binding.wordsApart_listText line.first line.others).concat (by decide)).cons (by decide)

private theorem dotsApart_body : DotsApart line.body := by
  have space : DotsApart [' '] := .of_not_mem (by decide)
  exact space.append ((Binding.dotsApart_listText line.first line.others).append space
    (.inr (by decide))) (.inl (by decide))

private theorem map_boundLocal_body :
    (line.body.splitOn ',').map boundLocal = line.targets.map (·.text) := by
  rw [targets, List.map_map]
  exact Binding.map_boundLocal_listText ⟨[' '], Text.isBlank_space⟩ ⟨[' '], Text.isBlank_space⟩
    line.first line.others

/-- A destructuring line is read as it is written, and adds a symbol for each local name that it
binds, in order and in the current scope: a constant behind `const` and a variable otherwise.
Nothing else changes. -/
theorem binds_its_locals (number : Nat) (context : Context) :
    IsPrintedLine .javascript line.text ∧
      context.step .javascript ⟨number, line.text⟩ =
        context.adding (line.targets.map fun target =>
          localSymbol line.keyword context number target.text) := by
  have signs : ['(', '}', ']'] ⊆ ['(', '}', ']', '\n'] := by decide
  refine ⟨isPrintedLine_bracketLine (line.not_mem_body '\n' (by decide)) _ _ _, ?_⟩
  exact step_bracketLine (List.cons_ne_nil _ _) (fun c member => line.not_mem_body c (signs member))
    line.wordsApart_body
    line.dotsApart_body line.map_boundLocal_body (List.cons_ne_nil _ _) line.keyword line.brackets
      line.value number context

end Destructuring

end Rules.JavaScript

end Symtab
