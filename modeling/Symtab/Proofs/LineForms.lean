import Symtab.Proofs.Preferred
import Symtab.Proofs.Printed

/-!
# Lines of a known form

How a line is read of which the form is known but not every word. A rule that is led by a keyword
looks for it among the words of the line, and the first rule that finds a match and claims the line
decides.
-/

set_option autoImplicit false

namespace Symtab

/-- The runs of word characters in a line, empty ones between other characters included. -/
def wordsIn (line : List Char) : List (List Char) :=
  line.splitOnP (!Text.isWord ·)

theorem wordsIn_split {c : Char} (breaks : Text.isWord c = false) (start rest : List Char) :
    wordsIn (start ++ c :: rest) = wordsIn start ++ wordsIn rest :=
  List.splitOnP_append_cons start rest (by simp [breaks])

section WordsIn

variable {word : List Char} (isWord : ∀ c ∈ word, Text.isWord c = true)

include isWord

theorem wordsIn_append_cons {c : Char} (edge : Text.isWord c = false) (rest : List Char) :
    wordsIn (word ++ c :: rest) = word :: wordsIn rest :=
  List.splitOnP_append_cons_of_forall_mem (fun d member => by simp [isWord d member]) c
    (by simp [edge]) rest

/-- A run of word characters with an edge on both sides is a word of the line. -/
theorem mem_wordsIn {before : List Char} {c : Char}
    (edge : ∀ d ∈ before.head?, Text.isWord d = false) (breaks : Text.isWord c = false)
    (rest : List Char) : word ∈ wordsIn (before.reverse ++ (word ++ c :: rest)) := by
  have upTo : word ∈ wordsIn (word ++ c :: rest) := by
    rw [wordsIn_append_cons isWord breaks]
    exact List.mem_cons_self
  cases before with
  | nil => exact upTo
  | cons d before =>
    rw [List.reverse_cons, List.append_assoc, List.singleton_append, wordsIn_split (edge d rfl)]
    exact List.mem_append_right _ upTo

end WordsIn

/-- A text has one longest run of word characters at its start. -/
theorem eq_of_wordRuns {first second rest others : List Char} {c d : Char}
    (same : first ++ c :: rest = second ++ d :: others)
    (firstWord : ∀ e ∈ first, Text.isWord e = true)
    (secondWord : ∀ e ∈ second, Text.isWord e = true) (firstBreaks : Text.isWord c = false)
    (secondBreaks : Text.isWord d = false) : first = second := by
  have firstRun : (first ++ c :: rest).takeWhile Text.isWord = first := by
    simp [List.takeWhile_append_of_pos firstWord, firstBreaks]
  have secondRun : (second ++ d :: others).takeWhile Text.isWord = second := by
    simp [List.takeWhile_append_of_pos secondWord, secondBreaks]
  rw [← firstRun, same, secondRun]

namespace Pattern

/-!
## Keywords
-/

/-- Whatever the pattern reads starts with one of the keywords as a whole word. -/
def LedBy (keywords : List String) (pattern : Pattern) : Prop :=
  ∀ before text rest captures kept, pattern.Reads before text rest captures kept →
    Cursor.atWordEdge ⟨before, text ++ rest⟩ = true ∧
      ∃ keyword ∈ keywords, ∃ c others, text = keyword.toList ++ c :: others ∧ Text.isWord c = false

theorem Reads.assoc {first second third : Pattern} {before text rest : List Char}
    {captures kept : Captures}
    (reads : (first ++ second ++ third).Reads before text rest captures kept) :
    (first ++ (second ++ third)).Reads before text rest captures kept := by
  obtain ⟨_, finish, _, rfl, ⟨start, middle, _, rfl, readFirst, readSecond⟩, readThird⟩ := reads
  rw [List.reverse_append, List.append_assoc] at readThird
  refine ⟨start, middle ++ finish, _, List.append_assoc start middle finish, ?_, middle, finish, _,
    rfl, readSecond, readThird⟩
  rw [List.append_assoc]
  exact readFirst

theorem LedBy.assoc {keywords : List String} {first second third : Pattern}
    (led : (first ++ (second ++ third)).LedBy keywords) :
    (first ++ second ++ third).LedBy keywords :=
  fun before text rest captures kept reads => led before text rest captures kept reads.assoc

theorem LedBy.append {keywords : List String} {first : Pattern} (led : first.LedBy keywords)
    (second : Pattern) :
    (first ++ second).LedBy keywords := by
  rintro before _ rest captures kept ⟨start, finish, between, rfl, reads, _⟩
  obtain ⟨edge, keyword, member, c, others, rfl, breaks⟩ :=
    led before start (finish ++ rest) captures between reads
  exact ⟨by rw [List.append_assoc]; exact edge, keyword, member, c, others ++ finish,
    by simp, breaks⟩

/-- A word edge, a keyword, and something that starts with no word character. -/
theorem ledBy_keyword {keywords : List String} {keyword follow : Pattern}
    (isKeyword : ∀ before text rest captures kept, keyword.Reads before text rest captures kept →
      ∃ written ∈ keywords, text = written.toList)
    (stuck : ¬follow.Passes fun _ => false)
    (unmet : ∀ c, Text.isWord c = true → ¬follow.Meets (fun _ => false) c) :
    (wordEdge ++ keyword ++ follow).LedBy keywords := by
  rintro before _ rest captures kept
    ⟨_, after, _, rfl, ⟨_, spelled, _, rfl, ⟨⟨rfl, edge⟩, rfl⟩, readKeyword⟩, readFollow⟩
  obtain ⟨written, member, rfl⟩ := isKeyword _ _ _ _ _ readKeyword
  obtain ⟨c, others, rfl, meets⟩ := readFollow.exists_first stuck
  exact ⟨by simpa using edge, written, member, c, others, rfl,
    Bool.eq_false_iff.mpr fun word => unmet c word meets⟩

theorem ledBy_keyword_blanks {keywords : List String} {keyword : Pattern}
    (isKeyword : ∀ before text rest captures kept, keyword.Reads before text rest captures kept →
      ∃ written ∈ keywords, text = written.toList) :
        (wordEdge ++ keyword ++ blanks1).LedBy keywords := by
  refine ledBy_keyword isKeyword (by simp) ?_
  intro c isWord
  simp [Text.isBlank_eq_false_of_isWord isWord]

/-- A line of which no keyword is a word holds no match. -/
theorem find?_eq_none_of_ledBy {keywords : List String} {pattern : Pattern}
    (led : pattern.LedBy keywords)
    (areWords : ∀ keyword ∈ keywords, keyword ≠ "" ∧ ∀ c ∈ keyword.toList, Text.isWord c = true)
    {line : List Char} (absent : ∀ keyword ∈ keywords, keyword.toList ∉ wordsIn line) :
    pattern.find? line = none := by
  cases matched : pattern.find? line with
  | none => rfl
  | some found =>
    obtain ⟨before, text, rest, kept, rfl, reads, _⟩ := isMatch_of_find? matched
    obtain ⟨edge, keyword, member, c, others, rfl, breaks⟩ := led before text rest [] kept reads
    obtain ⟨nonempty, isWord⟩ := areWords keyword member
    have edgeBefore : ∀ d ∈ before.head?, Text.isWord d = false := by
      intro d nearest
      have leads : (keyword.toList ++ c :: others ++ rest).head?.any Text.isWord = true := by
        cases spelled : keyword.toList with
        | nil => exact absurd (String.toList_eq_nil_iff.mp spelled) nonempty
        | cons first more => simp [isWord first (by rw [spelled]; exact List.mem_cons_self)]
      rw [Cursor.atWordEdge, leads, nearest] at edge
      simpa using edge
    have present := mem_wordsIn isWord edgeBefore breaks (others ++ rest)
    exact absurd (by simpa using present) (absent keyword member)

end Pattern

/-!
## Names
-/

theorem Pattern.wordOr_of_subset {signs more : List Char} (subset : signs ⊆ more) {c : Char}
    (belongs : wordOr signs c = true) :
    wordOr more c = true := by
  simp only [wordOr, Bool.or_eq_true, List.contains_iff_mem] at belongs ⊢
  exact belongs.imp_right fun member => subset member

theorem Pattern.eq_false_of_wordOr {inClass : Char → Bool}
    (notWord : ∀ c, Text.isWord c = true → inClass c = false) {signs : List Char}
    (notSign : ∀ c ∈ signs, inClass c = false) {c : Char} (belongs : wordOr signs c = true) :
    inClass c = false := by
  rw [wordOr, Bool.or_eq_true] at belongs
  rcases belongs with word | sign
  · exact notWord c word
  · exact notSign c (by simpa using sign)

theorem Pattern.isBlank_of_wordOr {signs : List Char}
    (visible : ∀ c ∈ signs, Text.isBlank c = false) {c : Char} (belongs : wordOr signs c = true) :
    Text.isBlank c = false :=
  eq_false_of_wordOr (fun _ => Text.isBlank_eq_false_of_isWord) visible belongs

theorem Pattern.isQuote_of_wordOr {signs : List Char} (plain : ∀ c ∈ signs, isQuote c = false)
    {c : Char} (belongs : wordOr signs c = true) : isQuote c = false :=
  eq_false_of_wordOr (fun _ => isQuote_eq_false_of_isWord) plain belongs

/-- What cannot start with a character of a text is blocked inside the text, blanks in it or not, if
no blank ends it. -/
theorem Pattern.blocked_inside {pattern : Pattern} (stuck : ¬pattern.Passes Text.isBlank)
    {text : List Char} (last : ∀ c ∈ text.getLast?, Text.isBlank c = false)
    (unmet : ∀ c ∈ text, Text.isBlank c = false → ¬pattern.Meets Text.isBlank c)
    {taken left : List Char} (split : text = taken ++ left) (nonempty : left ≠ [])
    (before rest : List Char) :
    pattern.Blocked ⟨before, left ++ rest⟩ := by
  obtain ⟨start, d, spelled⟩ := (List.eq_nil_or_concat left).resolve_left nonempty
  rw [List.concat_eq_append] at spelled
  have notBlank : Text.isBlank d = false := by
    refine last d ?_
    rw [split, spelled, ← List.append_assoc, List.getLast?_concat]
    rfl
  have present : (left.find? (!Text.isBlank ·)).isSome = true := by
    rw [List.find?_isSome]
    exact ⟨d, by simp [spelled], by simp [notBlank]⟩
  obtain ⟨c, found⟩ := Option.isSome_iff_exists.mp present
  have ahead : (left ++ rest).find? (!Text.isBlank ·) = some c := by
    rw [List.find?_append, found, Option.some_or]
  have inText : c ∈ text := by
    rw [split]
    exact List.mem_append_right taken (List.mem_of_find?_eq_some found)
  have visible : Text.isBlank c = false := by simpa using List.find?_some found
  exact blocked_of_not_meets stuck ahead (unmet c inText visible)

namespace Word

open Pattern

variable (name : Word)

theorem wordOr_text (signs : List Char) : ∀ c ∈ name.text, wordOr signs c = true := by
  intro c member
  simp [wordOr, name.isWord c member]

/-- Where there is a word edge in front of a name, no word comes before it. -/
theorem isWord_before {before rest : List Char}
    (edge : Cursor.atWordEdge ⟨before, name.text ++ rest⟩ = true) :
    ∀ d ∈ before.head?, Text.isWord d = false := by
  intro d nearest
  obtain ⟨c, others, split, isWord⟩ := name.exists_first
  have leads : (name.text ++ rest).head?.any Text.isWord = true := by simp [split, isWord]
  rw [Cursor.atWordEdge, leads, nearest] at edge
  simpa using edge

theorem takes_word {rest : List Char} (stops : ∀ c ∈ rest.head?, Text.isWord c = false)
    (before : List Char) (captures : Captures) :
    word.Takes ⟨before, name.text ++ rest⟩ ⟨name.text.reverse ++ before, rest⟩ captures captures :=
  takes_many1 name.nonempty name.isWord stops before captures

theorem takes_space (before rest : List Char) (captures : Captures) :
    blanks1.Takes ⟨before, ' ' :: (name.text ++ rest)⟩ ⟨' ' :: before, name.text ++ rest⟩ captures
      captures :=
  takes_blanks1_space (name.isBlank_head?_append rest) before captures

/-- A run of blanks in front of a name after a space is the space. -/
theorem blank_run {rest taken left : List Char} (split : ' ' :: (name.text ++ rest) = taken ++ left)
    (nonempty : taken ≠ []) (inside : ∀ c ∈ taken, Text.isBlank c = true) :
    taken = [' '] ∧ left = name.text ++ rest := by
  cases taken with
  | nil => exact absurd rfl nonempty
  | cons c more =>
    obtain ⟨rfl, after⟩ := List.cons.inj split
    cases more with
    | nil => exact ⟨rfl, after.symm⟩
    | cons d others =>
      have first := name.head?_text_append rest d (by rw [after]; rfl)
      have blank := inside d (by simp)
      rw [name.isBlank d first] at blank
      cases blank

theorem find?_not_isWord {c : Char} (edge : Text.isWord c = false) (rest : List Char) :
    (name.text ++ c :: rest).find? (!Text.isWord ·) = some c := by
  have skipped : name.text.find? (!Text.isWord ·) = none := by simpa using name.isWord
  rw [List.find?_append, skipped]
  simp [edge]

/-- A pattern that goes beyond a word is blocked at a name in front of a character that it cannot
meet there. -/
theorem blocked_of_break {pattern : Pattern} (stuck : ¬pattern.Passes Text.isWord) {c : Char}
    (edge : Text.isWord c = false) (unmet : ¬pattern.Meets Text.isWord c)
    (before rest : List Char) : pattern.Blocked ⟨before, name.text ++ c :: rest⟩ :=
  blocked_of_not_meets stuck (name.find?_not_isWord edge rest) unmet

end Word

namespace AsciiWord

open Pattern

variable (name : AsciiWord)

theorem takes_word {rest : List Char} (stops : ∀ c ∈ rest.head?, Text.isWord c = false)
    (before : List Char) (captures : Captures) :
    word.Takes ⟨before, name.text ++ rest⟩ ⟨name.text.reverse ++ before, rest⟩ captures captures :=
  name.toWord.takes_word stops before captures

section Signs

variable {signs : List Char} (outside : ∀ d ∈ signs, isAsciiWord d = false)

include outside

theorem oneOf_eq_false : ∀ c ∈ name.text, oneOf signs c = false := by
  intro c member
  have notListed : c ∉ signs := fun listed => name.not_mem (outside c listed) member
  simpa [oneOf] using notListed

theorem noneOf_eq_true : ∀ c ∈ name.text, noneOf signs c = true := by
  intro c member
  have notListed := name.oneOf_eq_false outside c member
  rw [oneOf] at notListed
  rw [noneOf, notListed, Bool.not_false]

end Signs

theorem takes_space (before rest : List Char) (captures : Captures) :
    blanks1.Takes ⟨before, ' ' :: (name.text ++ rest)⟩ ⟨' ' :: before, name.text ++ rest⟩ captures
      captures :=
  name.toWord.takes_space before rest captures

/-- A run of blanks in front of a name after a space is the space. -/
theorem blank_run {rest taken left : List Char} (split : ' ' :: (name.text ++ rest) = taken ++ left)
    (nonempty : taken ≠ []) (inside : ∀ c ∈ taken, Text.isBlank c = true) :
    taken = [' '] ∧ left = name.text ++ rest :=
  name.toWord.blank_run split nonempty inside

theorem blocked_of_next {pattern : Pattern} (stuck : ¬pattern.Passes fun _ => false)
    (unmet : ∀ c ∈ name.text, ¬pattern.Meets (fun _ => false) c) (before rest : List Char) :
    pattern.Blocked ⟨before, name.text ++ rest⟩ := by
  obtain ⟨c, others, split⟩ := name.exists_cons
  rw [split]
  exact Pattern.blocked_of_next stuck (unmet c (by rw [split]; exact List.mem_cons_self)) before
    (others ++ rest)

/-- What no character of a name can start is blocked inside it. -/
theorem blocked_inside {pattern : Pattern} {rest : List Char}
    (blocked : ∀ c ∈ name.text, ∀ before others, pattern.Blocked ⟨before, c :: others⟩)
    {taken left : List Char} (split : name.text = taken ++ left) (nonempty : left ≠ [])
    (before : List Char) :
    pattern.Blocked ⟨before, left ++ rest⟩ := by
  obtain ⟨c, others, rfl⟩ := List.exists_cons_of_ne_nil nonempty
  exact blocked c (by rw [split]; exact List.mem_append_right taken List.mem_cons_self) before
    (others ++ rest)

theorem find?_not_isWord {c : Char} (edge : Text.isWord c = false) (rest : List Char) :
    (name.text ++ c :: rest).find? (!Text.isWord ·) = some c :=
  name.toWord.find?_not_isWord edge rest

theorem blocked_of_break {pattern : Pattern} (stuck : ¬pattern.Passes Text.isWord) {c : Char}
    (edge : Text.isWord c = false) (unmet : ¬pattern.Meets Text.isWord c)
    (before rest : List Char) : pattern.Blocked ⟨before, name.text ++ c :: rest⟩ :=
  name.toWord.blocked_of_break stuck edge unmet before rest

theorem opensBlock_between {start finish : String}
    (opens : start.toList.count '}' + finish.toList.count '}' <
      start.toList.count '{' + finish.toList.count '{') :
    opensBlock (name.between start finish) = true := by
  simpa [opensBlock, name.count_between (c := '}') (by decide),
    name.count_between (c := '{') (by decide)] using opens

theorem opensScope_between {start finish : String}
    (opens : start.toList.count '}' + finish.toList.count '}' <
      start.toList.count '{' + finish.toList.count '{') :
    opensScope (name.between start finish) = true := by
  rw [opensScope, name.opensBlock_between opens, Bool.true_or]

/-- A keyword that goes no further into a word is blocked at any other name. -/
theorem blocked_of_ne {keyword : String} (isWord : ∀ c ∈ keyword.toList, Text.isWord c = true)
    {follow : Pattern} (stuck : ¬follow.Passes fun _ => false)
    (unmet : ∀ c, Text.isWord c = true → ¬follow.Meets (fun _ => false) c) {c : Char}
    (edge : Text.isWord c = false) (different : name.text ≠ keyword.toList)
    (before rest : List Char) :
    (Pattern.text keyword ++ follow).Blocked ⟨before, name.text ++ c :: rest⟩ := by
  refine blocked_of_not_reads fun _ others captures kept split reads => ?_
  obtain ⟨_, _, _, rfl, ⟨rfl, _⟩, readFollow⟩ := reads
  obtain ⟨e, more, rfl, meets⟩ := readFollow.exists_first stuck
  rw [List.append_assoc] at split
  exact different (eq_of_wordRuns split name.isWord isWord edge
    (Bool.eq_false_iff.mpr fun word => unmet e word meets))

/-- A rule that looks for a keyword at the start of the line is blocked at any other word. -/
theorem blocked_of_otherKeyword {keyword : String}
    (isWord : ∀ d ∈ keyword.toList, Text.isWord d = true) {c : Char} (edge : Text.isWord c = false)
    (different : name.text ≠ keyword.toList) (rest : List Char) :
    (lineStart ++ Pattern.text keyword ++ blanks1).Blocked ⟨[], name.text ++ c :: rest⟩ := by
  have gapUnmet : ∀ d, Text.isWord d = true → ¬blanks1.Meets (fun _ => false) d := by
    intro d inWord
    simp [Text.isBlank_eq_false_of_isWord inWord]
  exact (name.blocked_of_ne isWord (by simp) gapUnmet edge different [] rest).lineStartThen

/-- The words of a line around a name are those before it, the name and those after it. -/
theorem mem_wordsIn_between {keyword : List Char} {start finish : String}
    (startEdge : ∀ c ∈ start.toList.getLast?, Text.isWord c = false)
    (finishEdge : ∃ c ∈ finish.toList.head?, Text.isWord c = false)
    (member : keyword ∈ wordsIn (name.between start finish)) :
    keyword ∈ wordsIn start.toList ∨ keyword = name.text ∨ keyword ∈ wordsIn finish.toList := by
  obtain ⟨c, first, breaks⟩ := finishEdge
  obtain ⟨rest, finishSplit⟩ := List.head?_eq_some_iff.mp first
  have afterName : wordsIn (name.text ++ finish.toList) = name.text :: wordsIn rest := by
    rw [finishSplit, wordsIn_append_cons name.isWord breaks]
  have restInside : ∀ piece ∈ wordsIn rest, piece ∈ wordsIn finish.toList := by
    intro piece inRest
    rw [finishSplit, ← List.nil_append (c :: rest), wordsIn_split breaks]
    exact List.mem_append_right _ inRest
  have sides : keyword ∈ wordsIn start.toList ∨ keyword ∈ wordsIn (name.text ++ finish.toList) := by
    rw [between, List.append_assoc] at member
    cases last : start.toList.getLast? with
    | none =>
      rw [List.getLast?_eq_none_iff.mp last, List.nil_append] at member
      exact .inr member
    | some d =>
      obtain ⟨leading, startSplit⟩ := List.getLast?_eq_some_iff.mp last
      have edge := startEdge d last
      rw [startSplit, List.append_assoc, List.singleton_append, wordsIn_split edge] at member
      rw [startSplit, wordsIn_split edge]
      rcases List.mem_append.mp member with inLeading | later
      · exact .inl (List.mem_append_left _ inLeading)
      · exact .inr later
  rcases sides with inStart | inside
  · exact .inl inStart
  · rw [afterName] at inside
    rcases List.mem_cons.mp inside with same | later
    · exact .inr (.inl same)
    · exact .inr (.inr (restInside keyword later))

/-- A rule that is led by keywords finds nothing around any name if it finds nothing around the
keywords themselves. -/
theorem find?_between_of_ledBy {keywords : List String} {pattern : Pattern}
    (led : pattern.LedBy keywords)
    (areWords : ∀ keyword ∈ keywords, keyword ≠ "" ∧ ∀ c ∈ keyword.toList, Text.isWord c = true)
    (start finish : String) (startEdge : ∀ c ∈ start.toList.getLast?, Text.isWord c = false)
    (finishEdge : ∃ c ∈ finish.toList.head?, Text.isWord c = false)
    (absent : ∀ keyword ∈ keywords, keyword.toList ∉ wordsIn start.toList ∧
      keyword.toList ∉ wordsIn finish.toList)
    (itself : ∀ keyword ∈ keywords,
      pattern.find? (start.toList ++ keyword.toList ++ finish.toList) = none) :
    pattern.find? (name.between start finish) = none := by
  by_cases isKeyword : ∃ keyword ∈ keywords, keyword.toList = name.text
  · obtain ⟨keyword, member, same⟩ := isKeyword
    rw [between, ← same]
    exact itself keyword member
  · refine find?_eq_none_of_ledBy led areWords fun keyword member present => ?_
    rcases name.mem_wordsIn_between startEdge finishEdge present with inStart | same | inFinish
    · exact (absent keyword member).1 inStart
    · exact isKeyword ⟨keyword, member, same⟩
    · exact (absent keyword member).2 inFinish

end AsciiWord

/-!
## The rule that decides
-/

namespace Context

variable {language : Language} {number : Nat} {line : List Char} {context : Context}

theorem tryLine_of_find?_eq_none {rule : Rule} (unmatched : rule.pattern.find? line = none) :
    rule.tryLine language number line context = (context, false) := by
  simp only [Rule.tryLine, unmatched]

theorem tryLine_of_declines {rule : Rule}
    (declines : ∀ captures, rule.effect? captures line context = none) :
    rule.tryLine language number line context = (context, false) := by
  cases matched : rule.pattern.find? line with
  | none => exact tryLine_of_find?_eq_none matched
  | some found => simp only [Rule.tryLine, matched, Rule.tryMatch, declines]

theorem tryLine_of_finds {rule : Rule} {kept : Captures} (finds : rule.pattern.Finds line kept)
    (declines : rule.effect? kept line context = none) :
    rule.tryLine language number line context = (context, false) := by
  obtain ⟨found, matched, rfl⟩ := finds
  simp only [Rule.tryLine, matched, Rule.tryMatch, declines]

theorem cascaded_of_claims {earlier later : List Rule} {rule : Rule}
    (passed : ∀ other ∈ earlier, other.tryLine language number line context = (context, false))
    {kept : Captures} (finds : rule.pattern.Finds line kept) {effect : Effect}
    (outcome : rule.effect? kept line context = some effect) (claims : effect.claims = true) :
    context.cascaded language number line (earlier ++ rule :: later) =
      context.apply language number effect := by
  induction earlier with
  | nil =>
    obtain ⟨found, matched, rfl⟩ := finds
    simp only [List.nil_append, cascaded, Rule.tryLine, matched, Rule.tryMatch, outcome, claims]
  | cons other rest ih =>
    obtain ⟨otherPassed, restPassed⟩ := List.forall_mem_cons.mp passed
    simp only [List.cons_append, cascaded, otherPassed]
    exact ih restPassed

/-- The first rule of the cascade that does not pass a line on claims it, and the checks have
nothing to add. -/
theorem read_of_passed (earlier : List Rule) (rule : Rule) (later : List Rule)
    (cascade : language.rules.cascade = earlier ++ rule :: later)
    (passed : ∀ other ∈ earlier, other.tryLine language number line context = (context, false))
    (noCheck : ∀ other ∈ language.rules.checks, other.pattern.find? line = none) {kept : Captures}
    (finds : rule.pattern.Finds line kept) {effect : Effect}
    (outcome : rule.effect? kept line context = some effect) (claims : effect.claims = true) :
    context.read language.rules language number line = context.apply language number effect := by
  rw [Context.read, cascade, cascaded_of_claims passed finds outcome claims,
    foldl_checked_of_find?_eq_none noCheck]

/-- A line that every rule passes on changes nothing. -/
theorem step_of_all_passed (unchecked : language.rules.checks = []) (other : line ≠ ['}'])
    (passed : ∀ rule ∈ language.rules.cascade, rule.tryLine language number line context =
      (context, false)) :
    context.step language ⟨number, line⟩ = context := by
  have cascaded :
      ∀ rules : List Rule,
        (∀ rule ∈ rules, rule.tryLine language number line context = (context, false)) →
      context.cascaded language number line rules = context := by
    intro rules allPassed
    induction rules with
    | nil => rfl
    | cons rule rest ih =>
      obtain ⟨first, others⟩ := List.forall_mem_cons.mp allPassed
      simp only [Context.cascaded, first]
      exact ih others
  simp only [step, Context.read, unchecked, List.foldl_nil, cascaded _ passed, if_neg other]

theorem step_of_passed (earlier : List Rule) (rule : Rule) (later : List Rule)
    (cascade : language.rules.cascade = earlier ++ rule :: later)
    (passed : ∀ other ∈ earlier, other.tryLine language number line context = (context, false))
    (noCheck : ∀ other ∈ language.rules.checks, other.pattern.find? line = none) {kept : Captures}
    (finds : rule.pattern.Finds line kept) {effect : Effect}
    (outcome : rule.effect? kept line context = some effect) (claims : effect.claims = true)
    (other : line ≠ ['}']) :
    context.step language ⟨number, line⟩ = context.apply language number effect := by
  simp only [step, read_of_passed earlier rule later cascade passed noCheck finds outcome claims,
    if_neg other]

theorem ne_closingBrace {line : List Char} (noClosing : '}' ∉ line) : line ≠ ['}'] := by
  rintro rfl
  exact noClosing (List.mem_singleton_self _)

theorem step_of_claims (earlier : List Rule) (rule : Rule) (later : List Rule)
    (cascade : language.rules.cascade = earlier ++ rule :: later)
    (unmatched : ∀ other ∈ earlier ++ language.rules.checks, other.pattern.find? line = none)
    {kept : Captures} (finds : rule.pattern.Finds line kept) {effect : Effect}
    (outcome : rule.effect? kept line context = some effect) (claims : effect.claims = true)
    (noClosing : '}' ∉ line) :
    context.step language ⟨number, line⟩ = context.apply language number effect := by
  obtain ⟨noneEarlier, noCheck⟩ := List.forall_mem_append.mp unmatched
  exact step_of_passed earlier rule later cascade
    (fun other member => tryLine_of_find?_eq_none (noneEarlier other member))
    noCheck finds outcome claims (ne_closingBrace noClosing)

theorem step_of_claims_unchecked (unchecked : language.rules.checks = []) (earlier : List Rule)
    (rule : Rule) (later : List Rule) (cascade : language.rules.cascade = earlier ++ rule :: later)
    (unmatched : ∀ other ∈ earlier, other.pattern.find? line = none) {kept : Captures}
    (finds : rule.pattern.Finds line kept) {effect : Effect}
    (outcome : rule.effect? kept line context = some effect) (claims : effect.claims = true)
    (noClosing : '}' ∉ line) :
    context.step language ⟨number, line⟩ = context.apply language number effect := by
  refine step_of_claims earlier rule later cascade ?_ finds outcome claims noClosing
  rw [unchecked, List.append_nil]
  exact unmatched

/-!
## Blocks
-/

/-- The state with further symbols, and with their names recorded. -/
def adding (context : Context) (symbols : List Symbol) : Context :=
  { context with
    symbols := context.symbols ++ symbols
    names := context.names ++ symbols.map (·.name) }

theorem apply_declarations (context : Context) (language : Language) (number : Nat)
    (declarations : List Declaration) (claims : Bool) :
    context.apply language number { declarations, claims } =
      context.adding (declarations.map (·.toSymbol language number)) := by
  rw [apply, adding, Declaration.map_name_toSymbol]
  rfl

theorem adding_nil (context : Context) : context.adding [] = context := by
  simp [adding]

private theorem adding_adding (context : Context) (symbols more : List Symbol) :
    (context.adding symbols).adding more = context.adding (symbols ++ more) := by
  simp [adding, List.append_assoc]

/-- Lines that only add symbols, followed by further such lines. -/
theorem foldl_step_append {lines more : List (List Char)} {symbols others : List Symbol}
    (first : (numberFrom number lines).foldl (step language) context = context.adding symbols)
    (rest : (numberFrom (number + lines.length) more).foldl (step language)
      (context.adding symbols) =
      (context.adding symbols).adding others) :
    (numberFrom number (lines ++ more)).foldl (step language) context =
      context.adding (symbols ++ others) := by
  rw [numberFrom_append, List.foldl_append, first, rest, adding_adding]

/-- Lines that add symbols, as long as a property holds that symbols do not touch. -/
theorem foldl_step_items {α : Type} {line : α → List Char} (symbols : α × Nat → List Symbol)
    (property : Context → Prop)
    (kept : ∀ context symbols, property context → property (context.adding symbols))
    (each : ∀ item number context, property context →
      context.step language ⟨number, line item⟩ = context.adding (symbols (item, number)))
    (items : List α) (number : Nat) (context : Context) (holds : property context) :
    (numberFrom number (items.map line)).foldl (step language) context =
      context.adding ((items.zipIdx number).flatMap symbols) := by
  induction items generalizing number context with
  | nil => exact (adding_nil context).symm
  | cons item rest ih =>
    have first :
        (numberFrom number [line item]).foldl (step language) context =
          context.adding (symbols (item, number)) :=
      each item number context holds
    exact foldl_step_append first (ih (number + 1) _ (kept context _ holds))

/-- Lines that add one symbol each. -/
theorem foldl_step_each {α : Type} {line : α → List Char} {symbol : α × Nat → Symbol}
    (property : Context → Prop)
    (kept : ∀ context symbols, property context → property (context.adding symbols))
    (each : ∀ item number context, property context →
      context.step language ⟨number, line item⟩ = context.adding [symbol (item, number)])
    (items : List α) (number : Nat) (context : Context) (holds : property context) :
    (numberFrom number (items.map line)).foldl (step language) context =
      context.adding ((items.zipIdx number).map symbol) := by
  have added :=
    foldl_step_items (fun entry => [symbol entry]) property kept each items number context holds
  rwa [← List.map_eq_flatMap] at added

/-- A line that opens a body, lines that only add symbols, and the closing brace add what the line
and the lines add. -/
theorem foldl_step_block {header : List Char} {declarations : List Declaration} {scope : Scope}
    (opens : context.step language ⟨number, header⟩ =
      context.apply language number { declarations, opens := [scope] })
    {body : List (List Char)} {symbols : List Symbol}
    (inside : (numberFrom (number + 1) body).foldl (step language)
        (context.apply language number { declarations, opens := [scope] }) =
      (context.apply language number { declarations, opens := [scope] }).adding symbols) :
    (numberFrom number (header :: (body ++ [['}']]))).foldl (step language) context =
      context.adding (declarations.map (·.toSymbol language number) ++ symbols) := by
  have lines : numberFrom number (header :: (body ++ [['}']])) =
      ⟨number, header⟩ ::
        (numberFrom (number + 1) body ++ [⟨number + 1 + body.length, ['}']⟩]) := by
    simp [numberFrom, List.zipIdx_append]
  rw [lines, List.foldl_cons, opens, List.foldl_append, inside, List.foldl_cons, List.foldl_nil,
    step_closingBrace]
  simp only [apply, adding, close, ScopeStack.pop_push, GroupChange.after, List.foldl_cons,
    List.foldl_nil, List.map_append, Declaration.map_name_toSymbol, List.append_assoc]

end Context

end Symtab
