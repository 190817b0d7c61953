import Symtab.Proofs.LineForms
import Symtab.Proofs.Repetition
import Symtab.Scan.Words

/-!
# Words in front of a declaration

Lines that start with any number of words out of a list, each followed by a space. A repetition over
the list reads all of them, and gives the last one back if nothing can be read after it.
-/

set_option autoImplicit false

namespace Symtab

/-- A name that is one of the given words. -/
structure WordOf (words : List String) extends AsciiWord where
  listed : isAmong words text = true

theorem mem_of_isAmong {words : List String} {text : List Char}
    (listed : isAmong words text = true) :
    ∃ word ∈ words, text = word.toList := by
  simp only [isAmong, List.contains_eq_mem, decide_eq_true_eq] at listed
  exact ⟨_, listed, String.toList_ofList.symm⟩

theorem ne_of_isAmong_eq_false {words : List String} {text : List Char}
    (unlisted : isAmong words text = false) {word : String} (member : word ∈ words) :
    text ≠ word.toList := by
  rintro rfl
  simp [isAmong, member] at unlisted

theorem isAmong_eq_false_of_subset {words more : List String} (subset : words ⊆ more)
    {text : List Char} (unlisted : isAmong more text = false) : isAmong words text = false := by
  cases listed : isAmong words text with
  | false => rfl
  | true =>
    obtain ⟨word, member, spelled⟩ := mem_of_isAmong listed
    exact absurd spelled (ne_of_isAmong_eq_false unlisted (subset member))

theorem WordOf.ne {words : List String} (listed : WordOf words) {word : String}
    (unlisted : word ∉ words) :
    listed.text ≠ word.toList := by
  intro same
  obtain ⟨other, member, spelled⟩ := mem_of_isAmong listed.listed
  exact unlisted (String.toList_inj.mp (same.symm.trans spelled) ▸ member)

/-- The line with the given words in front of it. -/
def led {words : List String} (leading : List (WordOf words)) (rest : List Char) : List Char :=
  leading.foldr (fun word line => word.text ++ ' ' :: line) rest

section Led

variable {words : List String} (leading : List (WordOf words))

@[simp] theorem led_nil (rest : List Char) : led ([] : List (WordOf words)) rest = rest := rfl

@[simp] theorem led_cons (word : WordOf words) (rest : List Char) :
    led (word :: leading) rest = word.text ++ ' ' :: led leading rest := rfl

theorem led_append (more : List (WordOf words)) (rest : List Char) :
    led (leading ++ more) rest = led leading (led more rest) :=
  List.foldr_append

theorem led_append_right (rest more : List Char) :
    led leading (rest ++ more) = led leading rest ++ more := by
  induction leading with
  | nil => rfl
  | cons word leading ih => rw [led_cons, led_cons, ih, List.append_assoc, List.cons_append]

private theorem count_led {c : Char} (outside : isAsciiWord c = false) (notSpace : c ≠ ' ')
    (rest : List Char) :
    (led leading rest).count c = rest.count c := by
  induction leading with
  | nil => rfl
  | cons word leading ih =>
    rw [led_cons, List.count_append, List.count_cons_of_ne notSpace.symm,
      List.count_eq_zero.mpr (word.not_mem outside), ih, Nat.zero_add]

theorem not_mem_led {c : Char} (outside : isAsciiWord c = false) (notSpace : c ≠ ' ')
    {rest : List Char} (absent : c ∉ rest) :
    c ∉ led leading rest := by
  rw [← List.count_eq_zero, count_led leading outside notSpace, List.count_eq_zero]
  exact absent

theorem count_led_spaced (first second : AsciiWord) {c : Char} (outside : isAsciiWord c = false)
    (notSpace : c ≠ ' ') (rest : List Char) :
    (led leading (first.text ++ ' ' :: (second.text ++ rest))).count c = rest.count c := by
  rw [count_led leading outside notSpace, first.count_spaced second outside notSpace]

/-- Only what stands behind the words decides whether a body is left open. -/
theorem opensScope_led {rest finish : List Char}
    (same : ∀ c ∈ ['{', '}'], rest.count c = finish.count c) (opens : opensBlock finish = true) :
    opensScope (led leading rest) = true := by
  have opensAll : opensBlock (led leading rest) = opensBlock finish := by
    rw [opensBlock, count_led leading (by decide) (by decide),
      count_led leading (by decide) (by decide), same '{' (by decide),
      same '}' (by decide), opensBlock]
  rw [opensScope, opensAll, opens, Bool.true_or]

private theorem head?_led {property : Char → Bool}
    (ofWords : ∀ c, isAsciiWord c = true → property c = true) {rest : List Char}
    (first : rest.head?.any property = true) : (led leading rest).head?.any property = true := by
  cases leading with
  | nil => exact first
  | cons word leading =>
    obtain ⟨c, others, split⟩ := word.exists_cons
    have holds := ofWords c (word.ascii c (by rw [split]; exact List.mem_cons_self))
    simpa [split] using holds

private theorem isBlank_head?_led {rest : List Char}
    (first : ∀ c ∈ rest.head?, Text.isBlank c = false) :
    ∀ c ∈ (led leading rest).head?, Text.isBlank c = false := by
  cases leading with
  | nil => exact first
  | cons word leading => exact word.isBlank_head?_append _

private theorem getLast?_led {rest : List Char} (nonempty : rest ≠ []) :
    (led leading rest).getLast? = rest.getLast? := by
  obtain ⟨start, last, rfl⟩ := List.eq_nil_or_concat rest |>.resolve_left nonempty
  rw [List.concat_eq_append, led_append_right, List.getLast?_concat, List.getLast?_concat]

theorem wordsIn_led (rest : List Char) :
    wordsIn (led leading rest) = leading.map (·.text) ++ wordsIn rest := by
  induction leading with
  | nil => rfl
  | cons word leading ih =>
    rw [led_cons, wordsIn_append_cons word.isWord (by decide), ih, List.map_cons, List.cons_append]

/-- A line with words in front of it is printed like the line. -/
theorem isPrintedLine_led {language : Language}
    (markers : language.commentMarkers = [.leading "//", .leading "/*", .leading "*"])
    {rest : List Char} (oneLine : '\n' ∉ rest) (first : rest.head?.any isAsciiWord)
    (last : rest.getLast?.any (Pattern.oneOf [';', ',', '{', '}'])) :
    IsPrintedLine language (led leading rest) := by
  have nonempty : rest ≠ [] := by
    rintro rfl
    cases first
  have starts : (led leading rest).head?.any isAsciiWord = true :=
    head?_led leading (fun _ ascii => ascii) first
  refine isPrintedLine_of_ends markers (not_mem_led leading (by decide) (by decide) oneLine) ?_ ?_
  · cases head : (led leading rest).head? with
    | none =>
      rw [head] at starts
      cases starts
    | some c =>
      rw [head, Option.any_some] at starts
      rw [Option.any_some, starts, Bool.true_or]
  · rw [getLast?_led leading nonempty]
    exact last

end Led

/-!
## Whole words
-/

theorem isIdentifierChar_of_isAsciiWord {c : Char} (ascii : isAsciiWord c = true) :
    Text.isIdentifierChar c = true := by
  rw [isAsciiWord, Bool.or_eq_true] at ascii
  rw [Text.isIdentifierChar, Text.isAlphanumeric]
  rcases ascii with letter | underscore
  · rw [letter, Bool.true_or, Bool.true_or]
  · rw [underscore, Bool.or_true]

theorem AsciiWord.isIdentifierChar (word : AsciiWord) :
    ∀ c ∈ word.text, Text.isIdentifierChar c = true :=
  fun c member => isIdentifierChar_of_isAsciiWord (word.ascii c member)

theorem AsciiWord.hasWord_append_cons (word : AsciiWord) {c : Char}
    (edge : Text.isIdentifierChar c = false) (rest : List Char) (sought : String) :
    hasWord (word.text ++ c :: rest) sought =
      (sought.toList == word.text || hasWord rest sought) := by
  have split : (word.text ++ c :: rest).splitOnP (!Text.isIdentifierChar ·) =
      word.text :: rest.splitOnP (!Text.isIdentifierChar ·) :=
    List.splitOnP_append_cons_of_forall_mem
      (fun d member => by simp [word.isIdentifierChar d member]) c (by simp [edge]) rest
  rw [hasWord, split, List.contains_cons, hasWord]

theorem hasWord_led {words : List String} (leading : List (WordOf words)) (rest : List Char)
    (sought : String) :
    hasWord (led leading rest) sought =
      (leading.any (sought.toList == ·.text) || hasWord rest sought) := by
  induction leading with
  | nil => rfl
  | cons word leading ih =>
    rw [led_cons, word.hasWord_append_cons (by decide), ih, List.any_cons, Bool.or_assoc]

theorem declarationHead_append {start : List Char} (absent : '=' ∉ start) (rest : List Char) :
    declarationHead (start ++ '=' :: rest) = start := by
  have inside : ∀ c ∈ start, (c != '=') = true := by
    intro c member
    rw [bne_iff_ne]
    rintro rfl
    exact absent member
  rw [declarationHead, List.takeWhile_append_of_pos inside]
  simp

namespace Pattern

/-!
## Reading the words
-/

theorem Reads.eq_of_anyText {written : List String} {before text rest : List Char}
    {captures kept : Captures} (reads : (anyText written).Reads before text rest captures kept) :
    ∃ word ∈ written, text = word.toList := by
  fun_induction anyText written with
  | case1 =>
    obtain ⟨⟨c, _, never⟩, _⟩ := reads
    cases never
  | case2 word => exact ⟨word, List.mem_singleton_self word, reads.1⟩
  | case3 word others _ ih =>
    rcases reads with ⟨same, _⟩ | later
    · exact ⟨word, List.mem_cons_self, same⟩
    · obtain ⟨other, member, same⟩ := ih later
      exact ⟨other, List.mem_cons_of_mem word member, same⟩

/-- One of the given words and white space after it. -/
abbrev leadingWord (written : List String) : Pattern :=
  anyText written ++ blanks1

theorem leadingWord_stuck (written : List String) :
    ¬(leadingWord written).Passes fun _ => false := by
  simp

section LeadingWord

variable {written : List String}
    (areWords : ∀ word ∈ written, ∀ c ∈ word.toList, Text.isWord c = true)

include areWords

/-- Only the word that a line starts with can be read there, together with the space after it. -/
theorem Reads.eq_of_leadingWord {name : AsciiWord} {c : Char} (edge : Text.isWord c = false)
    {before text rest others : List Char} {captures kept : Captures}
    (split : name.text ++ c :: others = text ++ rest)
    (reads : (leadingWord written).Reads before text rest captures kept) :
    isAmong written name.text = true ∧ ∃ gap, (∀ d ∈ gap, Text.isBlank d = true) ∧ gap ≠ [] ∧
    text = name.text ++ gap := by
  obtain ⟨spelled, gap, _, rfl, readWord,
    ⟨first, more, _, rfl, ⟨⟨d, rfl, blank⟩, _⟩, ⟨inside, _⟩⟩⟩ := reads
  obtain ⟨word, member, rfl⟩ := readWord.eq_of_anyText
  have notWord := Text.isWord_eq_false_of_isBlank blank
  rw [List.append_assoc, List.append_assoc] at split
  have same := eq_of_wordRuns split name.isWord (areWords word member) edge notWord
  refine ⟨?_, [d] ++ more, ?_, by simp, by rw [same]⟩
  · simp [isAmong, same, member]
  · simpa [blank] using inside

theorem blocked_leadingWord {name : AsciiWord} (unlisted : isAmong written name.text = false)
    {c : Char} (edge : Text.isWord c = false) (before rest : List Char) :
    (leadingWord written).Blocked ⟨before, name.text ++ c :: rest⟩ := by
  refine blocked_of_not_reads fun text others captures kept split reads => ?_
  have listed := (reads.eq_of_leadingWord areWords edge split).1
  rw [unlisted] at listed
  cases listed

private theorem takes_leadingWord (name : WordOf written) {rest : List Char}
    (stops : ∀ c ∈ rest.head?, Text.isBlank c = false) (before : List Char) (captures : Captures) :
    (leadingWord written).Takes ⟨before, name.text ++ ' ' :: rest⟩
      ⟨' ' :: (name.text.reverse ++ before), rest⟩
      captures captures := by
  have gap :
      blanks1.Takes ⟨name.text.reverse ++ before, ' ' :: rest⟩
        ⟨' ' :: (name.text.reverse ++ before), rest⟩
      captures captures :=
    takes_blanks1_space stops _ captures
  obtain ⟨name, listed⟩ := name
  obtain ⟨word, member, spelled⟩ := mem_of_isAmong listed
  rw [spelled] at gap ⊢
  have itself :
      (text word ++ blanks1).Takes ⟨before, word.toList ++ ' ' :: rest⟩ _ captures captures :=
    (takes_literal word.toList before (' ' :: rest) captures).append gap
  clear spelled listed
  unfold leadingWord
  -- Whatever word is tried first, it is the one that stands there or the gap after it is missing.
  fun_induction anyText written with
  | case1 => cases member
  | case2 other =>
    cases List.mem_singleton.mp member
    exact itself
  | case3 other others _ ih =>
    by_cases same : word = other
    · subst same
      exact itself.firstChoiceThen
    · have later := List.mem_of_ne_of_mem same member
      refine .secondChoiceThen ?_ (ih (fun word inOthers =>
        areWords word (List.mem_cons_of_mem other inOthers)) later)
      refine blocked_of_not_reads fun _ left captures kept split reads => ?_
      obtain ⟨_, _, _, rfl, ⟨rfl, _⟩, ⟨_, more, _, rfl, ⟨⟨d, rfl, blank⟩, _⟩, _⟩⟩ := reads
      have notWord := Text.isWord_eq_false_of_isBlank blank
      rw [List.append_assoc, List.append_assoc] at split
      exact same (String.toList_inj.mp
        (eq_of_wordRuns split (areWords word member) (areWords other List.mem_cons_self)
        (by decide) notWord))

/-- A repetition reads all words in front of a line, and goes on with the line. -/
theorem exists_takes_led {follow : Pattern} {rest : List Char}
    (stops : ∀ c ∈ rest.head?, Text.isBlank c = false) {captures kept : Captures}
    (onward : ∀ before, ∃ later, (repeated (leadingWord written) ++ follow).Takes ⟨before, rest⟩
      later captures kept)
    (leading : List (WordOf written)) (before : List Char) :
    ∃ later, (repeated (leadingWord written) ++ follow).Takes ⟨before, led leading rest⟩ later
      captures kept := by
  induction leading generalizing before with
  | nil => exact onward before
  | cons word leading ih =>
    obtain ⟨later, others⟩ := ih (' ' :: (word.text.reverse ++ before))
    have round := takes_leadingWord areWords word (isBlank_head?_led leading stops) before captures
    exact ⟨later, .repeatedMore (leadingWord_stuck written) round others⟩

end LeadingWord

/-!
## Searching behind the words
-/

section Search

variable {keywords : List String} {pattern : Pattern} (leads : pattern.LedBy keywords)
  (areWords : ∀ keyword ∈ keywords, keyword ≠ "" ∧ ∀ c ∈ keyword.toList, Text.isWord c = true)

include leads

theorem LedBy.blocked_of_inside {before rest : List Char} {c d : Char}
    (inWord : Text.isWord c = true) (alsoInWord : Text.isWord d = true) :
    pattern.Blocked ⟨c :: before, d :: rest⟩ := by
  refine blocked_of_not_reads fun text others captures kept split reads => ?_
  obtain ⟨edge, _⟩ := leads _ _ _ _ _ reads
  rw [← split, Cursor.atWordEdge] at edge
  simp [inWord, alsoInWord] at edge

include areWords

theorem LedBy.blocked_of_break {before rest : List Char} {c : Char}
    (breaks : Text.isWord c = false) :
    pattern.Blocked ⟨before, c :: rest⟩ := by
  refine blocked_of_not_reads fun text others captures kept split reads => ?_
  obtain ⟨_, keyword, member, d, more, rfl, _⟩ := leads _ _ _ _ _ reads
  obtain ⟨nonempty, isWord⟩ := areWords keyword member
  cases spelled : keyword.toList with
  | nil => exact nonempty (String.toList_eq_nil_iff.mp spelled)
  | cons first letters =>
    rw [spelled] at split isWord
    obtain ⟨rfl, _⟩ := List.cons.inj split
    rw [isWord c List.mem_cons_self] at breaks
    cases breaks

/-- From inside a word, the search goes on behind it. -/
theorem LedBy.findFrom?_inside {run : List Char} (isRun : ∀ c ∈ run, Text.isWord c = true)
    {first : Char} (inWord : Text.isWord first = true) {before rest : List Char} {c : Char}
    (breaks : Text.isWord c = false) :
    pattern.findFrom? (first :: before) (run ++ c :: rest) =
      pattern.findFrom? (c :: (run.reverse ++ first :: before)) rest := by
  induction run generalizing first before with
  | nil =>
    rw [List.nil_append, findFrom?, matchAt?, leads.blocked_of_break areWords breaks]
    rfl
  | cons d run ih =>
    obtain ⟨next, others⟩ := List.forall_mem_cons.mp isRun
    rw [List.cons_append, findFrom?, matchAt?, leads.blocked_of_inside inWord next]
    rw [List.reverse_cons, List.append_assoc]
    exact ih others next

/-- A word that is no keyword is passed over. -/
theorem LedBy.findFrom?_word {name : AsciiWord}
    (noKeyword : ∀ keyword ∈ keywords, name.text ≠ keyword.toList) (before : List Char) {c : Char}
    (breaks : Text.isWord c = false) (rest : List Char) :
    pattern.findFrom? before (name.text ++ c :: rest) =
      pattern.findFrom? (c :: (name.text.reverse ++ before)) rest := by
  have notHere : pattern.Blocked ⟨before, name.text ++ c :: rest⟩ := by
    refine blocked_of_not_reads fun text others captures kept split reads => ?_
    obtain ⟨_, keyword, member, d, more, rfl, edge⟩ := leads _ _ _ _ _ reads
    rw [List.append_assoc, List.cons_append] at split
    exact noKeyword keyword member
      (eq_of_wordRuns split name.isWord (areWords keyword member).2 breaks edge)
  obtain ⟨first, run, spelled⟩ := name.exists_cons
  have isWord := name.isWord
  rw [spelled] at isWord notHere
  obtain ⟨inWord, isRun⟩ := List.forall_mem_cons.mp isWord
  rw [spelled, List.cons_append, findFrom?, matchAt?,
    show pattern.Blocked ⟨before, first :: (run ++ c :: rest)⟩ from notHere]
  rw [List.reverse_cons, List.append_assoc]
  exact leads.findFrom?_inside areWords isRun inWord breaks

theorem LedBy.exists_findFrom?_led {words : List String}
    (apart : ∀ keyword ∈ keywords, keyword ∉ words) (leading : List (WordOf words))
    (rest : List Char) {before : List Char} (edge : ∀ c ∈ before.head?, Text.isWord c = false) :
    ∃ behind, (∀ c ∈ behind.head?, Text.isWord c = false) ∧
      pattern.findFrom? before (led leading rest) = pattern.findFrom? behind rest := by
  induction leading generalizing before with
  | nil => exact ⟨before, edge, rfl⟩
  | cons word leading ih =>
    obtain ⟨behind, edgeBehind, same⟩ :=
      ih (stops_before (c := ' ') (by decide) (word.text.reverse ++ before))
    refine ⟨behind, edgeBehind, ?_⟩
    rw [led_cons, leads.findFrom?_word areWords (fun keyword member =>
      word.ne (apart keyword member)) before (by decide), same]

end Search

end Pattern

end Symtab
