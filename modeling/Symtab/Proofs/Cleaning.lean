import Symtab.Proofs.Excerpt

/-!
# Cleaning a text once

Cleaning takes white space, quotes and again white space off the ends of a text, once. What is left
has no white space at its ends, and it has no quotes there either unless the text has white space
with quotes on both sides of it. A text without quotes, or one with clean ends, is cleaned for good.
-/

set_option autoImplicit false

namespace Symtab

theorem isQuote_eq_false_of_class (inClass : Char → Bool)
    (outside : ∀ c ∈ ['"', '\'', '\x60'], inClass c = false) {c : Char}
    (belongs : inClass c = true) : isQuote c = false := by
  cases quote : isQuote c with
  | false => rfl
  | true =>
    simp only [isQuote, Bool.or_eq_true, beq_iff_eq, or_assoc] at quote
    rw [outside c (by simpa using quote)] at belongs
    cases belongs

/-- No character of the text is a quote. -/
def Unquoted (text : List Char) : Prop :=
  ∀ c ∈ text, isQuote c = false

instance (text : List Char) : Decidable (Unquoted text) :=
  Text.decidableForallText text

theorem Unquoted.of_subset {text part : List Char} (unquoted : Unquoted text)
    (subset : part ⊆ text) : Unquoted part :=
  fun c member => unquoted c (subset member)

/-- The text neither starts nor ends with white space or a quote. -/
structure HasCleanEnds (text : List Char) : Prop where
  first : ∀ c ∈ text.head?, Text.isBlank c = false ∧ isQuote c = false
  last : ∀ c ∈ text.getLast?, Text.isBlank c = false ∧ isQuote c = false

theorem HasCleanEnds.append {start finish : List Char} (before : HasCleanEnds start)
    (behind : HasCleanEnds finish) :
    HasCleanEnds (start ++ finish) :=
  ⟨Text.head?_append_of before.first behind.first, Text.getLast?_append_of before.last behind.last⟩

theorem HasCleanEnds.of_forall {text : List Char}
    (plain : ∀ c ∈ text, Text.isBlank c = false ∧ isQuote c = false) :
    HasCleanEnds text :=
  ⟨fun c first => plain c (List.mem_of_head? first), fun c last =>
    plain c (List.mem_of_getLast? last)⟩

/-- The line has white space with quotes on both sides of it. -/
def HasQuotedGap (line : List Char) : Prop :=
  ∃ opening gap closing, isQuote opening = true ∧ isQuote closing = true ∧ gap ≠ [] ∧
    (∀ c ∈ gap, Text.isBlank c = true) ∧ opening :: (gap ++ [closing]) <:+: line

theorem HasQuotedGap.of_isInfix {text line : List Char} (gapped : HasQuotedGap text)
    (part : text <:+: line) :
    HasQuotedGap line := by
  obtain ⟨opening, gap, closing, isOpening, isClosing, nonempty, blank, inside⟩ := gapped
  exact ⟨opening, gap, closing, isOpening, isClosing, nonempty, blank, inside.trans part⟩

/-- What is taken off the ends of a text belongs to the class. -/
theorem Text.exists_strip_append (inClass : Char → Bool) (text : List Char) :
    ∃ start finish, text = start ++ (strip inClass text ++ finish) ∧
    (∀ c ∈ start, inClass c = true) ∧
      ∀ c ∈ finish, inClass c = true := by
  obtain ⟨finish, split, inside⟩ := exists_stripEnd_append inClass (text.dropWhile inClass)
  refine ⟨text.takeWhile inClass, finish, ?_, fun c member => List.mem_takeWhile_imp member, inside⟩
  rw [strip, ← split, List.takeWhile_append_dropWhile]

/-- What cleaning leaves of a text, if there is anything left. -/
theorem cleanName?_eq_some_iff {raw : List Char} {name : String} :
    cleanName? raw = some name ↔
      name ≠ "" ∧ name.toList = Text.trim (Text.strip isQuote (Text.trim raw)) := by
  rw [cleanName?]
  split
  · next empty => simp [empty]
  · next nonempty =>
    constructor
    · rintro ⟨⟩
      exact ⟨by simpa using nonempty, by simp⟩
    · rintro ⟨_, same⟩
      rw [← same, String.ofList_toList]

theorem HasCleanEnds.cleaned_eq {text : List Char} (ends : HasCleanEnds text) :
    Text.trim (Text.strip isQuote (Text.trim text)) = text := by
  have trimmed : Text.trim text = text :=
    Text.strip_eq_self (fun c first => (ends.first c first).1) fun c last => (ends.last c last).1
  have stripped : Text.strip isQuote text = text :=
    Text.strip_eq_self (fun c first => (ends.first c first).2) fun c last => (ends.last c last).2
  rw [trimmed, stripped, trimmed]

/-- Cleaning does not change a text exactly if the text is not empty and has clean ends. -/
theorem cleanName?_eq_self_iff {name : String} :
    cleanName? name.toList = some name ↔ name ≠ "" ∧ HasCleanEnds name.toList := by
  rw [cleanName?_eq_some_iff]
  refine and_congr_right fun _ => ⟨fun same => ?_, fun ends => ends.cleaned_eq.symm⟩
  -- Each of the three steps leaves a part of the text, so none of them takes anything off.
  have outer := Text.trim_isInfix name.toList
  have middle := Text.strip_isInfix isQuote (Text.trim name.toList)
  have inner := Text.trim_isInfix (Text.strip isQuote (Text.trim name.toList))
  have whole :
      (Text.trim (Text.strip isQuote (Text.trim name.toList))).length = name.toList.length := by
    rw [← same]
  have trimmed : Text.trim name.toList = name.toList :=
    outer.eq_of_length
      (Nat.le_antisymm outer.length_le (whole ▸ inner.length_le.trans middle.length_le))
  rw [trimmed] at middle inner whole
  have stripped : Text.strip isQuote name.toList = name.toList :=
    middle.eq_of_length (Nat.le_antisymm middle.length_le (whole ▸ inner.length_le))
  constructor
  · intro c first
    exact ⟨Text.head?_strip _ _ c (by rwa [← Text.trim, trimmed]),
      Text.head?_strip _ _ c (by rwa [stripped])⟩
  · intro c last
    exact ⟨Text.getLast?_strip _ _ c (by rwa [← Text.trim, trimmed]),
      Text.getLast?_strip _ _ c (by rwa [stripped])⟩

/-!
## Texts that are cleaned for good
-/

/-- The name that is left of the text is not changed by cleaning it once more. -/
def Settles (raw : List Char) : Prop :=
  ∀ name, cleanName? raw = some name → cleanName? name.toList = some name

theorem HasCleanEnds.settles {raw : List Char} (ends : HasCleanEnds raw) : Settles raw := by
  intro name cleaned
  obtain ⟨nonempty, spelled⟩ := cleanName?_eq_some_iff.mp cleaned
  rw [ends.cleaned_eq] at spelled
  exact cleanName?_eq_self_iff.mpr ⟨nonempty, spelled ▸ ends⟩

section Cleaned

variable {raw : List Char} {name : String} (cleaned : cleanName? raw = some name)

include cleaned

/-- What is left of a text has no white space at its ends. -/
theorem isBlank_ends_of_cleanName? :
    (∀ c ∈ name.toList.head?, Text.isBlank c = false) ∧
    ∀ c ∈ name.toList.getLast?, Text.isBlank c = false := by
  rw [(cleanName?_eq_some_iff.mp cleaned).2]
  exact ⟨Text.head?_strip _ _, Text.getLast?_strip _ _⟩

/-- The text is made of what is left of it, the white space around that, the quotes around both and
the white space outside. -/
theorem exists_layers : ∃ opening before behind closing,
    Text.strip isQuote (Text.trim raw) = before ++ (name.toList ++ behind) ∧
      Text.trim raw = opening ++ (before ++ (name.toList ++ behind) ++ closing) ∧
      (∀ c ∈ opening ++ closing, isQuote c = true) ∧
      ∀ c ∈ before ++ behind, Text.isBlank c = true := by
  obtain ⟨opening, closing, outer, isOpening, isClosing⟩ :=
    Text.exists_strip_append isQuote (Text.trim raw)
  obtain ⟨before, behind, inner, blankBefore, blankBehind⟩ :=
    Text.exists_strip_append Text.isBlank (Text.strip isQuote (Text.trim raw))
  rw [← Text.trim, ← (cleanName?_eq_some_iff.mp cleaned).2] at inner
  refine ⟨opening, before, behind, closing, inner, inner ▸ outer, ?_, ?_⟩
  · exact List.forall_mem_append.mpr ⟨isOpening, isClosing⟩
  · exact List.forall_mem_append.mpr ⟨blankBefore, blankBehind⟩

end Cleaned

theorem Unquoted.settles {raw : List Char} (unquoted : Unquoted raw) : Settles raw := by
  intro name cleaned
  have part := (isExcerpt_of_cleanName? List.infix_rfl cleaned).2
  have ends := isBlank_ends_of_cleanName? cleaned
  refine cleanName?_eq_self_iff.mpr ⟨(cleanName?_eq_some_iff.mp cleaned).1, ?_, ?_⟩
  · exact fun c first => ⟨ends.1 c first, unquoted c (part.subset (List.mem_of_head? first))⟩
  · exact fun c last => ⟨ends.2 c last, unquoted c (part.subset (List.mem_of_getLast? last))⟩

section Quotes

variable {raw : List Char} {name : String} (cleaned : cleanName? raw = some name) {c : Char}
    (quote : isQuote c = true)

include cleaned quote

/-- A quote that is left in front was hidden by white space from the quotes that were taken off
there. -/
theorem hasQuotedGap_of_first (first : c ∈ name.toList.head?) : HasQuotedGap raw := by
  obtain ⟨opening, before, behind, closing, inner, outer, quotes, blanks⟩ := exists_layers cleaned
  obtain ⟨rest, spelled⟩ := List.head?_eq_some_iff.mp first
  have gap : before ≠ [] := by
    rintro rfl
    have outside := Text.head?_strip isQuote (Text.trim raw) c (by simp [inner, spelled])
    rw [quote] at outside
    cases outside
  have hidden : opening ≠ [] := by
    rintro rfl
    obtain ⟨d, others, rfl⟩ := List.exists_cons_of_ne_nil gap
    have outside := Text.head?_strip Text.isBlank raw d (by rw [← Text.trim, outer]; rfl)
    rw [blanks d (by simp)] at outside
    cases outside
  obtain ⟨start, q, rfl⟩ := (List.eq_nil_or_concat opening).resolve_left hidden
  refine ⟨q, before, c, quotes q (by simp), quote, gap,
    fun d member => blanks d (by simp [member]), ?_⟩
  refine List.IsInfix.trans ⟨start, rest ++ behind ++ closing, ?_⟩ (Text.trim_isInfix raw)
  simp [outer, spelled]

/-- A quote that is left at the end was hidden by white space from the quotes that were taken off
there. -/
theorem hasQuotedGap_of_last (last : c ∈ name.toList.getLast?) : HasQuotedGap raw := by
  obtain ⟨opening, before, behind, closing, inner, outer, quotes, blanks⟩ := exists_layers cleaned
  obtain ⟨start, spelled⟩ := List.getLast?_eq_some_iff.mp last
  have gap : behind ≠ [] := by
    rintro rfl
    have outside := Text.getLast?_strip isQuote (Text.trim raw) c (by simp [inner, spelled])
    rw [quote] at outside
    cases outside
  have hidden : closing ≠ [] := by
    rintro rfl
    obtain ⟨others, d, rfl⟩ := (List.eq_nil_or_concat behind).resolve_left gap
    have outside := Text.getLast?_strip Text.isBlank raw d (by rw [← Text.trim, outer]; simp)
    rw [blanks d (by simp)] at outside
    cases outside
  obtain ⟨q, finish, rfl⟩ := List.exists_cons_of_ne_nil hidden
  refine ⟨c, behind, q, quote, quotes q (by simp), gap,
    fun d member => blanks d (by simp [member]), ?_⟩
  refine List.IsInfix.trans ⟨opening ++ (before ++ start), finish, ?_⟩ (Text.trim_isInfix raw)
  simp [outer, spelled]

end Quotes

/-- One round of cleaning is enough for a text without white space between quotes. -/
theorem settles_or_hasQuotedGap (raw : List Char) : Settles raw ∨ HasQuotedGap raw := by
  refine or_iff_not_imp_right.mpr fun noGap name cleaned => ?_
  have ends := isBlank_ends_of_cleanName? cleaned
  refine cleanName?_eq_self_iff.mpr ⟨(cleanName?_eq_some_iff.mp cleaned).1, ?_, ?_⟩
  · refine fun c first => ⟨ends.1 c first, Bool.eq_false_iff.mpr fun quote => ?_⟩
    exact noGap (hasQuotedGap_of_first cleaned quote first)
  · refine fun c last => ⟨ends.2 c last, Bool.eq_false_iff.mpr fun quote => ?_⟩
    exact noGap (hasQuotedGap_of_last cleaned quote last)

/-!
## Names and types
-/

/-- The text is not empty and has no white space at its ends. It has no quotes there either and is
not changed by cleaning it, unless there is an excuse for that. -/
structure CleanUnless (excuse : Prop) (name : String) : Prop where
  nonempty : name ≠ ""
  first : ∀ c ∈ name.toList.head?, Text.isBlank c = false
  last : ∀ c ∈ name.toList.getLast?, Text.isBlank c = false
  clean : HasCleanEnds name.toList ∧ cleanName? name.toList = some name ∨ excuse

theorem CleanUnless.of_cleanName? {excuse : Prop} {raw : List Char} {name : String}
    (cleaned : cleanName? raw = some name) (settled : Settles raw ∨ excuse) :
    CleanUnless excuse name where
  nonempty := (cleanName?_eq_some_iff.mp cleaned).1
  first := (isBlank_ends_of_cleanName? cleaned).1
  last := (isBlank_ends_of_cleanName? cleaned).2
  clean :=
    settled.imp_left fun settles =>
      ⟨(cleanName?_eq_self_iff.mp (settles name cleaned)).2, settles name cleaned⟩

theorem CleanUnless.of_hasCleanEnds {excuse : Prop} {name : String} (nonempty : name ≠ "")
    (ends : HasCleanEnds name.toList) :
    CleanUnless excuse name :=
  .of_cleanName? (cleanName?_eq_self_iff.mpr ⟨nonempty, ends⟩) (.inl ends.settles)

theorem CleanUnless.imp {excuse other : Prop} (implies : excuse → other) {name : String}
    (clean : CleanUnless excuse name) :
    CleanUnless other name :=
  ⟨clean.nonempty, clean.first, clean.last, clean.clean.imp_right implies⟩

end Symtab
