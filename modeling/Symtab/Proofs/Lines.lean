import Symtab.Scan.Basic

/-!
# Numbered lines

The lines of a program as a scan sees them: trimmed, numbered in increasing order, and unaffected by
text that is appended after a line feed. An appended line feed may take a carriage return off the
last line, which trimming takes off anyway.
-/

set_option autoImplicit false

namespace Symtab

namespace Text

private theorem stripEnd_append_singleton (inClass : Char → Bool) (text : List Char) {c : Char}
    (stripped : inClass c = true) :
    stripEnd inClass (text ++ [c]) = stripEnd inClass text := by
  simp [stripEnd, stripped]

private theorem trim_append_singleton (text : List Char) {c : Char} (blank : isBlank c = true) :
    trim (text ++ [c]) = trim text := by
  unfold trim strip
  rw [List.dropWhile_append]
  cases rest : text.dropWhile isBlank with
  | nil => simp [blank]
  | cons first others =>
    simpa using stripEnd_append_singleton isBlank (first :: others) blank

theorem trim_dropCarriageReturn (current : List Char) :
    trim (dropCarriageReturn current).reverse = trim current.reverse := by
  unfold dropCarriageReturn
  split
  · rw [List.reverse_cons, trim_append_singleton _ (by decide)]
  · rfl

private theorem trim_linesFrom_prefix (current text more : List Char) :
    (linesFrom current text).map trim <+: (linesFrom current (text ++ '\n' :: more)).map trim := by
  induction text generalizing current with
  | nil =>
    cases current with
    | nil => exact List.nil_prefix
    | cons c before =>
      -- The line that the end of the text ended is now ended by the line feed.
      have same := trim_dropCarriageReturn (c :: before)
      simp only [List.nil_append, linesFrom, if_true, List.map_cons, same]
      exact List.prefix_append [trim (c :: before).reverse] _
  | cons c rest ih =>
    rw [List.cons_append, linesFrom, linesFrom]
    split
    · simp only [List.map_cons, List.cons_prefix_cons, true_and]
      exact ih []
    · exact ih (c :: current)

private theorem trim_lines_prefix (text more : List Char) :
    (lines text).map trim <+: (lines (text ++ '\n' :: more)).map trim :=
  trim_linesFrom_prefix [] text more

end Text

/-- Texts with numbers that count up from the given one. -/
def numberFrom (start : Nat) (texts : List (List Char)) : List Line :=
  (texts.zipIdx start).map fun (text, number) => ⟨number, text⟩

theorem numberFrom_append (start : Nat) (texts more : List (List Char)) :
    numberFrom start (texts ++ more) =
      numberFrom start texts ++ numberFrom (start + texts.length) more := by
  simp only [numberFrom, List.zipIdx_append, List.map_append]

theorem mem_numberFrom {start : Nat} {texts : List (List Char)} {line : Line} :
    line ∈ numberFrom start texts ↔
      start ≤ line.number ∧ texts[line.number - start]? = some line.text := by
  rw [numberFrom, List.mem_map]
  constructor
  · rintro ⟨⟨text, number⟩, counted, rfl⟩
    exact List.mk_mem_zipIdx_iff_le_and_getElem?_sub.mp counted
  · intro stands
    exact ⟨(line.text, line.number), List.mk_mem_zipIdx_iff_le_and_getElem?_sub.mpr stands, rfl⟩

private theorem pairwise_numberFrom (start : Nat) (texts : List (List Char)) :
    (numberFrom start texts).Pairwise fun first second => first.number < second.number := by
  have counted : (texts.zipIdx start).map Prod.snd = List.range' start texts.length :=
    List.zipIdx_map_snd start texts
  have increasing := List.pairwise_lt_range' (s := start) (n := texts.length)
  rw [← counted, List.pairwise_map] at increasing
  exact List.pairwise_map.mpr increasing

theorem numberedLines_eq (source : List Char) :
    numberedLines source = numberFrom 1 ((Text.lines source).map Text.trim) := by
  simp [numberedLines, numberFrom, List.zipIdx_map]

theorem pairwise_significantLines (language : Language) (source : List Char) :
    (significantLines language source).Pairwise fun first second =>
      first.number < second.number := by
  rw [significantLines, numberedLines_eq]
  exact (pairwise_numberFrom 1 _).filter _

/-- A line that a scan reads stands in the program, under its number, and is neither empty nor a
comment. -/
theorem of_mem_significantLines {language : Language} {source : List Char} {line : Line}
    (member : line ∈ significantLines language source) :
    1 ≤ line.number ∧ line.number ≤ (Text.lines source).length ∧
      ∃ raw, (Text.lines source)[line.number - 1]? = some raw ∧ Text.trim raw ≠ [] ∧
        language.isComment (Text.trim raw) = false := by
  obtain ⟨numbered, significant⟩ := List.mem_filter.mp member
  rw [numberedLines_eq, mem_numberFrom, List.getElem?_map, Option.map_eq_some_iff] at numbered
  obtain ⟨positive, raw, stands, trimmed⟩ := numbered
  obtain ⟨inside, _⟩ := List.getElem?_eq_some_iff.mp stands
  simp only [Language.isSignificant, ← trimmed, Bool.and_eq_true, Bool.not_eq_true',
    List.isEmpty_eq_false_iff]
    at significant
  exact ⟨positive, by omega, raw, stands, significant⟩

/-- Text after a further line feed only adds lines, with numbers that the program has not
reached. -/
theorem significantLines_append (language : Language) (source more : List Char) :
    ∃ added, significantLines language (source ++ '\n' :: more) =
      significantLines language source ++ added ∧
      ∀ line ∈ added, (Text.lines source).length < line.number := by
  obtain ⟨further, same⟩ := Text.trim_lines_prefix source more
  refine ⟨(numberFrom (1 + (Text.lines source).length) further).filter fun line =>
    language.isSignificant line.text, ?_, ?_⟩
  · simp only [significantLines, numberedLines_eq, ← same, numberFrom_append, List.filter_append,
      List.length_map]
  · intro line member
    obtain ⟨numbered, _⟩ := List.mem_filter.mp member
    have reached := (mem_numberFrom.mp numbered).1
    omega

end Symtab
