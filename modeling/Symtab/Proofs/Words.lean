import Mathlib.Data.List.TakeWhile
import Symtab.Symbol
import Symtab.Text.Word

/-!
# Word characters and blanks

No character is both white space and part of a word, nor both a quote and part of a word. So a word
has nothing that trimming or cleaning could take off. A path is made of words with `::` between
them.
-/

set_option autoImplicit false

namespace Symtab

namespace Text

section Decidability

variable {property : Char → Prop} [DecidablePred property]

-- What is said about the characters of a text is decided on the text, not by going through all
-- characters there are.

instance (priority := high) decidableForallText (text : List Char) :
    Decidable (∀ c ∈ text, property c) :=
  List.decidableBAll property text

instance (priority := high) decidableForallEnd (c? : Option Char) :
    Decidable (∀ c ∈ c?, property c) :=
  Option.decidableForallMem c?

instance (priority := high) decidableExistsEnd (c? : Option Char) :
    Decidable (∃ c ∈ c?, property c) :=
  Option.decidableExistsMem c?

end Decidability

/-- The code points of white space. -/
def blankPoints : List Nat :=
  [0x09, 0x0A, 0x0B, 0x0C, 0x0D, 0x20, 0x85, 0xA0, 0x1680, 0x2000, 0x2001, 0x2002, 0x2003, 0x2004,
    0x2005, 0x2006, 0x2007,
   0x2008, 0x2009, 0x200A, 0x2028, 0x2029, 0x202F, 0x205F, 0x3000]

private theorem mem_blankPoints_of_isBlank {c : Char} (blank : isBlank c = true) :
    c.toNat ∈ blankPoints := by
  simp only [isBlank, Bool.or_eq_true, Bool.and_eq_true, decide_eq_true_eq, beq_iff_eq] at blank
  simp only [blankPoints, List.mem_cons, List.not_mem_nil]
  omega

private theorem isWord_blankPoints : ∀ point ∈ blankPoints, isWord (Char.ofNat point) = false := by
  decide +kernel

theorem isWord_eq_false_of_isBlank {c : Char} (blank : isBlank c = true) : isWord c = false := by
  have notWord := isWord_blankPoints c.toNat (mem_blankPoints_of_isBlank blank)
  rwa [Char.ofNat_toNat] at notWord

theorem isBlank_eq_false_of_isWord {c : Char} (word : isWord c = true) : isBlank c = false := by
  cases blank : isBlank c with
  | false => rfl
  | true => exact absurd word (by simp [isWord_eq_false_of_isBlank blank])

theorem isBlank_space : ∀ c ∈ [' '], isBlank c = true := by
  decide

theorem not_exists_blank_word : ¬∃ c, isBlank c = true ∧ isWord c = true := by
  rintro ⟨c, blank, word⟩
  rw [isBlank_eq_false_of_isWord word] at blank
  cases blank

theorem strip_ne_nil {inClass : Char → Bool} {text : List Char} {c : Char} (member : c ∈ text)
    (outside : inClass c = false) : strip inClass text ≠ [] := by
  intro empty
  have inside : ∀ d ∈ text.dropWhile inClass, inClass d = true := by
    simpa [strip, stripEnd, List.dropWhile_eq_nil_iff] using empty
  have kept : c ∈ text.dropWhile inClass := by
    have split := List.takeWhile_append_dropWhile (p := inClass) (l := text)
    rw [← split] at member
    rcases List.mem_append.mp member with leading | kept
    · simp [List.mem_takeWhile_imp leading] at outside
    · exact kept
  simp [inside c kept] at outside

theorem dropWhile_of_head? {inClass : Char → Bool} {text : List Char}
    (first : ∀ c ∈ text.head?, inClass c = false) :
    text.dropWhile inClass = text := by
  cases text with
  | nil => rfl
  | cons c rest => simp [first c rfl]

theorem stripEnd_of_getLast? {inClass : Char → Bool} {text : List Char}
    (last : ∀ c ∈ text.getLast?, inClass c = false) :
    stripEnd inClass text = text := by
  rw [stripEnd, dropWhile_of_head? (by simpa using last), List.reverse_reverse]

theorem strip_eq_self {inClass : Char → Bool} {text : List Char}
    (first : ∀ c ∈ text.head?, inClass c = false) (last : ∀ c ∈ text.getLast?, inClass c = false) :
    strip inClass text = text := by
  rw [strip, dropWhile_of_head? first, stripEnd_of_getLast? last]

theorem head?_append_of {property : Char → Prop} {start finish : List Char}
    (first : ∀ c ∈ start.head?, property c) (second : ∀ c ∈ finish.head?, property c) :
    ∀ c ∈ (start ++ finish).head?, property c := by
  cases start with
  | nil => exact second
  | cons c rest => exact first

theorem getLast?_append_of {property : Char → Prop} {start finish : List Char}
    (first : ∀ c ∈ start.getLast?, property c) (second : ∀ c ∈ finish.getLast?, property c) :
    ∀ c ∈ (start ++ finish).getLast?, property c := by
  intro c last
  rw [List.getLast?_append] at last
  cases ends : finish.getLast? with
  | none => exact first c (by simpa [ends] using last)
  | some d => exact second c (by simpa [ends] using last)

theorem strip_of_outside {inClass : Char → Bool} {text : List Char}
    (outside : ∀ c ∈ text, inClass c = false) :
    strip inClass text = text :=
  strip_eq_self (fun c first => outside c (List.mem_of_head? first)) fun c last =>
    outside c (List.mem_of_getLast? last)

end Text

theorem isQuote_eq_false_of_isWord {c : Char} (word : Text.isWord c = true) :
    isQuote c = false := by
  cases quote : isQuote c with
  | false => rfl
  | true =>
    simp only [isQuote, Bool.or_eq_true, beq_iff_eq] at quote
    rcases quote with (rfl | rfl) | rfl
    all_goals exact absurd word (by decide)

/-- A text without white space and quotes is clean. -/
theorem cleanName?_of_clean {text : List Char} (nonempty : text ≠ [])
    (noBlank : ∀ c ∈ text, Text.isBlank c = false) (noQuote : ∀ c ∈ text, isQuote c = false) :
    cleanName? text = some (String.ofList text) := by
  have cleaned : Text.trim (Text.strip isQuote (Text.trim text)) = text := by
    simp only [Text.trim, Text.strip_of_outside noBlank, Text.strip_of_outside noQuote]
  obtain ⟨c, rest, rfl⟩ := List.exists_cons_of_ne_nil nonempty
  rw [cleanName?, cleaned]

theorem cleanName?_word {text : List Char} (nonempty : text ≠ [])
    (isWord : ∀ c ∈ text, Text.isWord c = true) :
    cleanName? text = some (String.ofList text) :=
  cleanName?_of_clean nonempty (fun c member => Text.isBlank_eq_false_of_isWord (isWord c member))
    fun c member => isQuote_eq_false_of_isWord (isWord c member)

theorem forall_mem_intercalate {property : Char → Prop} {separator : Char}
    (between : property separator) {pieces : List (List Char)}
    (each : ∀ piece ∈ pieces, ∀ c ∈ piece, property c) :
    ∀ c ∈ [separator].intercalate pieces, property c := by
  induction pieces with
  | nil => exact List.forall_mem_nil _
  | cons piece pieces ih =>
    obtain ⟨first, others⟩ := List.forall_mem_cons.mp each
    cases pieces with
    | nil => simpa using first
    | cons next pieces =>
      rw [List.intercalate_cons_cons, List.append_assoc]
      exact List.forall_mem_append.mpr ⟨first, List.forall_mem_cons.mpr ⟨between, ih others⟩⟩

/-!
## Words
-/

/-- A run of word characters that is not empty. -/
structure Word where
  text : List Char
  nonempty : text ≠ []
  isWord : ∀ c ∈ text, Text.isWord c = true

namespace Word

theorem text_inj {first second : Word} : first.text = second.text ↔ first = second := by
  cases first
  cases second
  simp

/-- The word of one character. -/
def ofChar (c : Char) (isWord : Text.isWord c = true) : Word :=
  ⟨[c], List.cons_ne_nil c [], by simpa using isWord⟩

variable (word : Word)

/-- The word as it is reported. -/
def name : String :=
  String.ofList word.text

theorem isBlank : ∀ c ∈ word.text, Text.isBlank c = false :=
  fun c member => Text.isBlank_eq_false_of_isWord (word.isWord c member)

theorem not_mem {c : Char} (outside : Text.isWord c = false) : c ∉ word.text := by
  intro member
  rw [word.isWord c member] at outside
  cases outside

theorem exists_cons : ∃ c rest, word.text = c :: rest :=
  List.exists_cons_of_ne_nil word.nonempty

theorem exists_first : ∃ c rest, word.text = c :: rest ∧ Text.isWord c = true := by
  obtain ⟨c, rest, split⟩ := word.exists_cons
  exact ⟨c, rest, split, word.isWord c (by rw [split]; exact List.mem_cons_self)⟩

theorem trim_text : Text.trim word.text = word.text :=
  Text.strip_of_outside word.isBlank

theorem cleanName?_text : cleanName? word.text = some word.name :=
  cleanName?_word word.nonempty word.isWord

theorem head?_text_append (rest : List Char) : ∀ c ∈ (word.text ++ rest).head?, c ∈ word.text := by
  obtain ⟨c, others, split⟩ := word.exists_cons
  simp [split]

theorem isBlank_head?_append (rest : List Char) :
    ∀ c ∈ (word.text ++ rest).head?, Text.isBlank c = false :=
  fun c first => word.isBlank c (word.head?_text_append rest c first)

end Word

/-- Words with `::` between them. -/
structure WordPath where
  leading : List Word
  last : Word

namespace WordPath

/-- The path as it is written. -/
def text (path : WordPath) : List Char :=
  path.leading.foldr (fun segment rest => segment.text ++ ':' :: ':' :: rest) path.last.text

theorem text_cons (segment : Word) (leading : List Word) (last : Word) :
    text ⟨segment :: leading, last⟩ = segment.text ++ ':' :: ':' :: text ⟨leading, last⟩ := rfl

variable (path : WordPath)

/-- The last word is all of the path, or what stands behind its last colon. -/
theorem text_eq :
    path.text = path.last.text ∨ ∃ start, path.text = start ++ ':' :: path.last.text := by
  obtain ⟨leading, last⟩ := path
  induction leading with
  | nil => exact .inl rfl
  | cons segment leading ih =>
    rw [text_cons]
    rcases ih with single | ⟨start, split⟩
    · exact .inr ⟨segment.text ++ [':'], by rw [single, List.append_assoc]; rfl⟩
    · exact .inr ⟨segment.text ++ ':' :: ':' :: start, by rw [split, List.append_assoc]; rfl⟩

theorem isWord_or_colon : ∀ c ∈ path.text, Text.isWord c = true ∨ c = ':' := by
  obtain ⟨leading, last⟩ := path
  induction leading with
  | nil => exact fun c member => .inl (last.isWord c member)
  | cons segment leading ih =>
    intro c member
    rw [text_cons] at member
    rcases List.mem_append.mp member with inSegment | behind
    · exact .inl (segment.isWord c inSegment)
    · rcases List.mem_cons.mp behind with same | behind
      · exact .inr same
      · rcases List.mem_cons.mp behind with same | inRest
        · exact .inr same
        · exact ih c inRest

theorem not_mem_text {c : Char} (outside : Text.isWord c = false) (notColon : c ≠ ':') :
    c ∉ path.text := by
  intro member
  rcases path.isWord_or_colon c member with word | same
  · rw [word] at outside
    cases outside
  · exact notColon same

theorem isBlank : ∀ c ∈ path.text, Text.isBlank c = false := by
  intro c member
  rcases path.isWord_or_colon c member with word | rfl
  · exact Text.isBlank_eq_false_of_isWord word
  · decide

theorem exists_cons : ∃ c rest, path.text = c :: rest ∧ Text.isWord c = true := by
  obtain ⟨leading, last⟩ := path
  cases leading with
  | nil => exact last.exists_first
  | cons segment leading =>
    obtain ⟨c, rest, split, word⟩ := segment.exists_first
    exact ⟨c, rest ++ ':' :: ':' :: text ⟨leading, last⟩, by rw [text_cons, split]; rfl, word⟩

theorem text_ne_nil : path.text ≠ [] := by
  obtain ⟨c, rest, split, -⟩ := path.exists_cons
  rw [split]
  exact List.cons_ne_nil c rest

theorem isWord_getLast? : ∀ c ∈ path.text.getLast?, Text.isWord c = true := by
  obtain ⟨start, d, spelled⟩ :=
    (List.eq_nil_or_concat path.last.text).resolve_left path.last.nonempty
  have isWord : Text.isWord d = true := path.last.isWord d (by simp [spelled])
  rcases path.text_eq with single | ⟨above, split⟩
  · simpa [single, spelled] using isWord
  · rw [split, spelled, List.concat_eq_append, ← List.cons_append, ← List.append_assoc,
      List.getLast?_concat]
    simpa using isWord

end WordPath

end Symtab
