import Mathlib.Data.List.Forall2
import Mathlib.Logic.Relation
import Symtab.Proofs.Renumber

/-!
# Layout

A scan depends on its program only through the texts of the significant lines, in order. White space
around a line, the kind of line end, blank lines and comment lines decide nothing but the numbers
under which symbols are reported.
-/

set_option autoImplicit false

namespace Symtab

/-- The texts of the lines of a program that can declare something. -/
def significantTexts (language : Language) (source : List Char) : List (List Char) :=
  (significantLines language source).map Line.text

/-!
## Programs with the same significant texts
-/

/-- The number of the line at a position, counted from zero. -/
def numberAt (lines : List Line) (position : Nat) : Nat :=
  (lines[position]?.map Line.number).getD 0

private theorem map_renumber_numberAt (lines : List Line) :
    (numberFrom 0 (lines.map Line.text)).map (Line.renumber (numberAt lines)) = lines := by
  refine List.ext_getElem? fun position => ?_
  simp only [numberFrom, List.getElem?_map, List.getElem?_zipIdx, Nat.zero_add, Option.map_map]
  cases stands : lines[position]? with
  | none => rfl
  | some line => simp [Line.renumber, numberAt, stands]

/-- The symbols that the given texts declare, each with the position of its text in the place of a
line number. -/
def scanTexts (language : Language) (texts : List (List Char)) : List Symbol :=
  dedup (Context.run language (numberFrom 0 texts)).symbols

private theorem scan_eq_map_scanTexts (language : Language) (source : String) :
    scan language source =
      (scanTexts language (significantTexts language source.toList)).map
        (Symbol.renumber (numberAt (significantLines language source.toList))) := by
  rw [scanTexts, ← dedup_run_renumber, significantTexts, map_renumber_numberAt, scan]

private theorem line_lt_of_mem_scanTexts {language : Language} {texts : List (List Char)}
    {symbol : Symbol} (member : symbol ∈ scanTexts language texts) :
    symbol.line < texts.length := by
  have found := (Context.run_foundOn language (numberFrom 0 texts)).sublist (dedup_sublist _)
  obtain ⟨line, counted, same⟩ := found.onLine symbol member
  obtain ⟨inside, _⟩ := List.getElem?_eq_some_iff.mp (mem_numberFrom.mp counted).2
  omega

/-- Two symbols that differ in nothing but their lines, which have the same position among the lines
of two programs. -/
structure Corresponds (firstLines secondLines : List Line) (first second : Symbol) : Prop where
  fields : second = { first with line := second.line }
  position : ∃ (position : Nat) (firstLine secondLine : Line),
    firstLines[position]? = some firstLine ∧ secondLines[position]? = some secondLine ∧
      first.line = firstLine.number ∧ second.line = secondLine.number

private theorem corresponds_renumber {firstLines secondLines : List Line} {symbol : Symbol}
    (inFirst : symbol.line < firstLines.length) (inSecond : symbol.line < secondLines.length) :
    Corresponds firstLines secondLines (symbol.renumber (numberAt firstLines))
      (symbol.renumber (numberAt secondLines)) where
  fields := rfl
  position := by
    have firstStands := List.getElem?_eq_getElem inFirst
    have secondStands := List.getElem?_eq_getElem inSecond
    exact ⟨symbol.line, _, _, firstStands, secondStands,
      by simp [Symbol.renumber, numberAt, firstStands],
      by simp [Symbol.renumber, numberAt, secondStands]⟩

private theorem forall₂_corresponds_of_significantTexts {language : Language}
    {first second : String}
    (same : significantTexts language first.toList = significantTexts language second.toList) :
    List.Forall₂ (Corresponds (significantLines language first.toList)
      (significantLines language second.toList))
      (scan language first) (scan language second) := by
  rw [scan_eq_map_scanTexts language first, scan_eq_map_scanTexts language second, ← same,
    List.forall₂_map_left_iff, List.forall₂_map_right_iff, List.forall₂_same]
  intro symbol member
  have inFirst := line_lt_of_mem_scanTexts member
  have inSecond := inFirst
  rw [same] at inSecond
  rw [significantTexts, List.length_map] at inFirst inSecond
  exact corresponds_renumber inFirst inSecond

/-!
## Edits of the layout
-/

namespace Text

/-- The text with the given lines, a line feed between any two of them. -/
def joinLines (lines : List (List Char)) : List Char :=
  ['\n'].intercalate lines

theorem joinLines_cons_cons (line next : List Char) (others : List (List Char)) :
    joinLines (line :: next :: others) = line ++ '\n' :: joinLines (next :: others) := by
  simp [joinLines, List.intercalate]

/-- The text with a carriage return put before each line feed. -/
def withCarriageReturns (text : List Char) : List Char :=
  text.flatMap fun c => if c = '\n' then ['\r', '\n'] else [c]

theorem linesFrom_of_not_mem {current text : List Char} (oneLine : '\n' ∉ text) :
    linesFrom current text =
      if (text.reverse ++ current).isEmpty then [] else [(text.reverse ++ current).reverse] := by
  induction text generalizing current with
  | nil => rfl
  | cons c rest ih =>
    obtain ⟨notFeed, restOneLine⟩ := List.ne_and_not_mem_of_not_mem_cons oneLine
    rw [linesFrom, if_neg (Ne.symm notFeed), ih restOneLine]
    simp

private theorem map_trim_linesFrom_withCarriageReturns (current text : List Char) :
    (linesFrom current (withCarriageReturns text)).map trim =
      (linesFrom current text).map trim := by
  induction text generalizing current with
  | nil => rfl
  | cons c rest ih =>
    rw [withCarriageReturns, List.flatMap_cons, ← withCarriageReturns, linesFrom]
    split
    · have dropped : linesFrom current ('\r' :: '\n' :: withCarriageReturns rest) =
          current.reverse :: linesFrom [] (withCarriageReturns rest) := by
        simp [linesFrom, dropCarriageReturn]
      rw [List.cons_append, List.cons_append, List.nil_append, dropped, List.map_cons,
        List.map_cons, ih, trim_dropCarriageReturn]
    · next notFeed =>
      rw [List.singleton_append, linesFrom, if_neg notFeed]
      exact ih (c :: current)

end Text

section SignificantTexts

variable (language : Language)

private theorem significantTexts_eq (source : List Char) :
    significantTexts language source =
      ((Text.lines source).map Text.trim).filter language.isSignificant := by
  have texts : (numberedLines source).map Line.text = (Text.lines source).map Text.trim := by
    rw [numberedLines_eq, numberFrom, List.map_map]
    exact List.zipIdx_map_fst 1 _
  rw [significantTexts, significantLines, ← texts, List.filter_map]
  rfl

private theorem filter_trim_linesFrom_append (current text more : List Char) :
    ((Text.linesFrom current (text ++ '\n' :: more)).map Text.trim).filter language.isSignificant =
      ((Text.linesFrom current text).map Text.trim).filter language.isSignificant ++
        ((Text.lines more).map Text.trim).filter language.isSignificant := by
  induction text generalizing current with
  | nil =>
    have ended : (Text.linesFrom current ('\n' :: more)).map Text.trim =
        Text.trim current.reverse :: (Text.lines more).map Text.trim := by
      rw [Text.linesFrom, if_pos rfl, List.map_cons, Text.trim_dropCarriageReturn, ← Text.lines]
    rw [List.nil_append, ended]
    cases current with
    | nil =>
      -- The line feed ends an empty line, which the text alone does not have.
      rfl
    | cons c before => exact List.filter_append [Text.trim (c :: before).reverse] _
  | cons c rest ih =>
    rw [List.cons_append, Text.linesFrom, Text.linesFrom]
    split
    · rw [List.map_cons, List.map_cons, List.filter_cons, List.filter_cons, ih]
      split
      · rfl
      · rfl
    · exact ih (c :: current)

private theorem significantTexts_append (text more : List Char) :
    significantTexts language (text ++ '\n' :: more) =
      significantTexts language text ++ significantTexts language more := by
  simp only [significantTexts_eq]
  exact filter_trim_linesFrom_append language [] text more

private theorem significantTexts_joinLines (lines : List (List Char)) :
    significantTexts language (Text.joinLines lines) =
      lines.flatMap (significantTexts language) := by
  induction lines with
  | nil => rfl
  | cons line rest ih =>
    cases rest with
    | nil => simp [Text.joinLines]
    | cons next others =>
      rw [Text.joinLines_cons_cons, significantTexts_append, ih]
      rfl

private theorem significantTexts_of_not_mem {line : List Char} (oneLine : '\n' ∉ line) :
    significantTexts language line = [Text.trim line].filter language.isSignificant := by
  rw [significantTexts_eq, Text.lines, Text.linesFrom_of_not_mem oneLine, List.append_nil,
    List.reverse_reverse]
  cases line with
  | nil => rfl
  | cons c rest => simp

private theorem significantTexts_withCarriageReturns (source : List Char) :
    significantTexts language (Text.withCarriageReturns source) =
      significantTexts language source := by
  rw [significantTexts_eq, significantTexts_eq, Text.lines,
    Text.map_trim_linesFrom_withCarriageReturns, ← Text.lines]

end SignificantTexts

/-- One change of a program that leaves what it says alone. -/
inductive LayoutEdit (language : Language) : String → String → Prop where
  /-- A line gets other white space before and after its text. -/
  | pad (above below : List (List Char)) {line padded : List Char} (oneLine : '\n' ∉ line)
      (oneLinePadded : '\n' ∉ padded)
      (sameText : Text.trim line = Text.trim padded) :
      LayoutEdit language (String.ofList (Text.joinLines (above ++ line :: below)))
        (String.ofList (Text.joinLines (above ++ padded :: below)))
  /-- A blank line or a line with nothing but a comment is inserted. -/
  | insert (above below : List (List Char)) {line : List Char} (oneLine : '\n' ∉ line)
      (declaresNothing : Text.trim line = [] ∨ language.isComment (Text.trim line) = true) :
      LayoutEdit language (String.ofList (Text.joinLines (above ++ below)))
        (String.ofList (Text.joinLines (above ++ line :: below)))
  /-- Every line feed gets a carriage return before it. -/
  | carriageReturns (source : String) :
      LayoutEdit language source (String.ofList (Text.withCarriageReturns source.toList))

theorem LayoutEdit.significantTexts_eq {language : Language} {first second : String}
    (edit : LayoutEdit language first second) :
    significantTexts language first.toList = significantTexts language second.toList := by
  cases edit with
  | pad above below oneLine oneLinePadded sameText =>
    simp only [String.toList_ofList, significantTexts_joinLines, List.flatMap_append,
      List.flatMap_cons, significantTexts_of_not_mem language oneLine,
      significantTexts_of_not_mem language oneLinePadded, sameText]
  | @insert above below line oneLine declaresNothing =>
    have passedOver : language.isSignificant (Text.trim line) = false := by
      rcases declaresNothing with blank | comment
      · simp [Language.isSignificant, blank]
      · simp [Language.isSignificant, comment]
    simp only [String.toList_ofList, significantTexts_joinLines, List.flatMap_append,
      List.flatMap_cons, significantTexts_of_not_mem language oneLine, List.filter_cons, passedOver,
      List.filter_nil, Bool.false_eq_true, if_false, List.nil_append]
  | carriageReturns => rw [String.toList_ofList, significantTexts_withCarriageReturns]

/-- Programs whose significant lines have the same texts in the same order are reported alike,
record by record, but for the numbers of lines with the same position. This includes programs that
are turned into each other by edits of their layout, made or undone one after the other. -/
theorem scan_layout_insensitive (language : Language) (first second : String)
    (related : significantTexts language first.toList = significantTexts language second.toList ∨
      Relation.EqvGen (LayoutEdit language) first second) :
    List.Forall₂ (Corresponds (significantLines language first.toList)
      (significantLines language second.toList))
      (scan language first) (scan language second) := by
  apply forall₂_corresponds_of_significantTexts
  rcases related with same | edited
  · exact same
  · induction edited with
    | rel first second edit => exact edit.significantTexts_eq
    | refl source => rfl
    | symm first second _ ih => exact ih.symm
    | trans first second third _ _ firstSame secondSame => exact firstSame.trans secondSame

/-- A comment above a class, another indentation and other line ends. -/
theorem commented_class_renumbered :
    let first := "class A \x7b\nb = 0;\n\x7d"
    let second := "// A\r\nclass A \x7b\r\n\r\n\tb = 0;\r\n\x7d\r\n"
    significantTexts .javascript first.toList = significantTexts .javascript second.toList ∧
      (scan .javascript first).map Symbol.line = [1, 2] ∧
        (scan .javascript second).map Symbol.line = [2, 4] ∧
      List.Forall₂ (Corresponds (significantLines .javascript first.toList)
        (significantLines .javascript second.toList))
        (scan .javascript first) (scan .javascript second) := by
  refine ⟨by decide, by decide, by decide, ?_⟩
  exact scan_layout_insensitive .javascript _ _ (.inl (by decide))

end Symtab
