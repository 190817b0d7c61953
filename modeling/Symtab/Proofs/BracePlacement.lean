import Symtab.Proofs.BodyBrace
import Symtab.Proofs.Excerpt
import Symtab.Proofs.Layout
import Symtab.Proofs.Printed
import Symtab.Proofs.Scopes

/-!
# Brace placement

In Java and in C the opening brace of a body may stand behind the header or on a line of its own
below it. Both layouts take a scan through the same states, and the lines after the header are
counted one further in the second.
-/

set_option autoImplicit false

namespace Symtab

/-- The languages whose rules look for no more than the header of a body. -/
def Language.BraceFree (language : Language) : Prop :=
  language = .java ∨ language = .c

theorem Language.BraceFree.ignoresBrace {language : Language} (free : language.BraceFree) :
    ∀ rule ∈ language.rules.cascade, rule.IgnoresBrace := by
  rcases free with rfl | rfl
  · exact Rules.Java.ignoresBrace
  · exact Rules.C.ignoresBrace

theorem Language.BraceFree.checks {language : Language} (free : language.BraceFree) :
    language.rules.checks = [] := by
  rcases free with rfl | rfl
  · rfl
  · rfl

/-!
## Lines that declare nothing
-/

private theorem isPrefixOf_append_of_apart {mark line more : List Char}
    (apart : ∀ c ∈ mark, c ∉ more) :
    mark.isPrefixOf (line ++ more) = mark.isPrefixOf line := by
  induction line generalizing mark with
  | nil =>
    cases mark with
    | nil => rfl
    | cons c rest =>
      cases more with
      | nil => rfl
      | cons d others =>
        have different : c ≠ d := fun same => apart c (by simp) (by simp [same])
        simp [List.isPrefixOf, different]
  | cons d others ih =>
    cases mark with
    | nil => rfl
    | cons c rest =>
      simp [List.isPrefixOf, ih fun e member => apart e (List.mem_cons_of_mem c member)]

private theorem definesMacro_append_bodyBrace {header : List Char} (nonempty : header ≠ []) :
    CommentMarker.definesMacro (header ++ bodyBrace) = CommentMarker.definesMacro header := by
  obtain ⟨c, rest, rfl⟩ := List.exists_cons_of_ne_nil nonempty
  simp only [CommentMarker.definesMacro, List.cons_append, List.tail_cons, List.dropWhile_append]
  split
  · next allBlank =>
    rw [List.isEmpty_iff.mp allBlank]
    decide
  · exact isPrefixOf_append_of_apart (by decide)

private theorem marks_append_bodyBrace {header : List Char} (nonempty : header ≠ [])
    {marker : CommentMarker}
    (apart : ∀ text, marker = .leading text → ∀ c ∈ text.toList, c ∉ bodyBrace) :
    marker.marks (header ++ bodyBrace) = marker.marks header := by
  cases marker with
  | leading text => exact isPrefixOf_append_of_apart (apart text rfl)
  | directive =>
    have hash : ['#'].isPrefixOf (header ++ bodyBrace) = ['#'].isPrefixOf header :=
      isPrefixOf_append_of_apart (by decide)
    simp only [CommentMarker.marks, hash, definesMacro_append_bodyBrace nonempty]

private theorem commentMarkers_apart (language : Language) :
    ∀ marker ∈ language.commentMarkers, ∀ text, marker = .leading text →
    ∀ c ∈ text.toList, c ∉ bodyBrace := by
  cases language <;> simp [Language.commentMarkers, bodyBrace]

private theorem isSignificant_append_bodyBrace (language : Language) {header : List Char}
    (nonempty : header ≠ []) :
    language.isSignificant (header ++ bodyBrace) = language.isSignificant header := by
  have marks :
      ∀ marker ∈ language.commentMarkers, marker.marks (header ++ bodyBrace) =
        marker.marks header :=
    fun marker member => marks_append_bodyBrace nonempty
      (commentMarkers_apart language marker member)
  have comment : language.isComment (header ++ bodyBrace) = language.isComment header := by
    rw [Language.isComment, Language.isComment, Bool.eq_iff_iff, List.any_eq_true, List.any_eq_true]
    exact exists_congr fun marker => and_congr_right fun member => by rw [marks marker member]
  obtain ⟨c, rest, rfl⟩ := List.exists_cons_of_ne_nil nonempty
  rw [Language.isSignificant, comment, Language.isSignificant]
  rfl

/-!
## One line
-/

namespace Context

/-- The state after any line of a program: one that declares nothing is passed over. -/
def stepOver (language : Language) (context : Context) (line : Line) : Context :=
  if language.isSignificant line.text then context.step language line else context

private theorem run_significantLines (language : Language) (source : List Char) :
    run language (significantLines language source) =
      (numberedLines source).foldl (stepOver language) initial := by
  rw [run, significantLines, List.foldl_filter]
  rfl

private theorem cascaded_append_bodyBrace {rules : List Rule}
    (ignore : ∀ rule ∈ rules, rule.IgnoresBrace) {header : List Char} (isHeader : IsHeader header)
    (language : Language) (number : Nat) (context : Context) :
    context.cascaded language number (header ++ bodyBrace) rules =
      context.cascaded language number header rules := by
  induction rules generalizing context with
  | nil => rfl
  | cons rule rest ih =>
    obtain ⟨ruleIgnores, restIgnore⟩ := List.forall_mem_cons.mp ignore
    simp only [cascaded, ruleIgnores header isHeader]
    cases rule.tryLine language number header context with
    | mk next claimed =>
      cases claimed with
      | true => rfl
      | false => exact ih restIgnore next

section BraceFree

variable {language : Language} (free : language.BraceFree)

include free

private theorem stepOver_append_bodyBrace {header : List Char} (isHeader : IsHeader header)
    (number : Nat) (context : Context) :
    context.stepOver language ⟨number, header ++ bodyBrace⟩ =
      context.stepOver language ⟨number, header⟩ := by
  have noClosing : header ≠ ['}'] := by
    rintro rfl
    exact isHeader.noClosing (List.mem_singleton_self _)
  have noClosingLonger : header ++ bodyBrace ≠ ['}'] := by
    intro same
    have last := congrArg List.getLast? same
    simp [bodyBrace] at last
  simp only [stepOver, isSignificant_append_bodyBrace language isHeader.ne_nil, step,
    if_neg noClosing, if_neg noClosingLonger, read, free.checks, List.foldl_nil,
    cascaded_append_bodyBrace free.ignoresBrace isHeader]

private theorem stepOver_openingBrace (number : Nat) (context : Context) :
    context.stepOver language ⟨number, ['{']⟩ = context := by
  have unmatched :
      ∀ rule ∈ language.rules.cascade ++ language.rules.checks,
        rule.pattern.find? ['{'] = none := by
    rcases free with rfl | rfl
    · decide
    · decide
  have read := read_of_find?_eq_none unmatched language number context
  simp only [stepOver, step, read]
  split
  · rfl
  · rfl

end BraceFree

/-!
## All lines
-/

private theorem foldl_stepOver_renumber (numbering : Nat → Nat) (language : Language)
    (lines : List Line) (context : Context) :
    (lines.map (Line.renumber numbering)).foldl (stepOver language) (context.renumber numbering) =
      (lines.foldl (stepOver language) context).renumber numbering := by
  induction lines generalizing context with
  | nil => rfl
  | cons line rest ih =>
    have first : (context.renumber numbering).stepOver language (line.renumber numbering) =
        (context.stepOver language line).renumber numbering := by
      have text : (line.renumber numbering).text = line.text := rfl
      simp only [stepOver, step_renumber, text]
      split
      · rfl
      · rfl
    rw [List.map_cons, List.foldl_cons, first, ih]
    rfl

private theorem renumber_eq_self {numbering : Nat → Nat} {context : Context}
    (same : ∀ symbol ∈ context.symbols, numbering symbol.line = symbol.line) :
    context.renumber numbering = context := by
  have symbols : context.symbols.map (Symbol.renumber numbering) = context.symbols :=
    (List.map_congr_left fun symbol member =>
      by rw [Symbol.renumber, same symbol member]; rfl).trans (List.map_id _)
  rw [renumber, symbols]

end Context

/-- The numbers of the lines of a program after a line is inserted behind the one with the given
number. -/
def shiftAfter (last number : Nat) : Nat :=
  if number ≤ last then number else number + 1

private theorem numberFrom_cons (start : Nat) (text : List Char) (rest : List (List Char)) :
    numberFrom start (text :: rest) = ⟨start, text⟩ :: numberFrom (start + 1) rest := rfl

private theorem map_renumber_numberFrom {last start : Nat} (after : last < start)
    (texts : List (List Char)) :
    (numberFrom start texts).map (Line.renumber (shiftAfter last)) =
      numberFrom (start + 1) texts := by
  induction texts generalizing start with
  | nil => rfl
  | cons text rest ih =>
    have first : shiftAfter last start = start + 1 := if_neg (by omega)
    rw [numberFrom_cons, numberFrom_cons, List.map_cons, ih (by omega), Line.renumber, first]

namespace Context

private theorem foldl_stepOver_line_le (language : Language) (texts : List (List Char))
    {symbol : Symbol}
    (member : symbol ∈ ((numberFrom 1 texts).foldl (stepOver language) initial).symbols) :
    symbol.line ≤ texts.length := by
  have significant : (numberFrom 1 texts).foldl (stepOver language) initial =
      run language ((numberFrom 1 texts).filter fun line => language.isSignificant line.text) := by
    rw [run, List.foldl_filter]
    rfl
  rw [significant] at member
  obtain ⟨line, counted, same⟩ := (run_foundOn language _).onLine symbol member
  obtain ⟨positive, stands⟩ := mem_numberFrom.mp (List.mem_of_mem_filter counted)
  obtain ⟨inside, _⟩ := List.getElem?_eq_some_iff.mp stands
  omega

/-- After the header the two layouts have led to one state, and from there on only the numbers
differ. -/
theorem foldl_stepOver_brace_below {language : Language} (free : language.BraceFree)
    (above below : List (List Char)) {header : List Char} (isHeader : IsHeader header) :
    (numberFrom 1 (above ++ header :: ['{'] :: below)).foldl (stepOver language) initial =
      ((numberFrom 1 (above ++ (header ++ bodyBrace) :: below)).foldl (stepOver language)
        initial).renumber
        (shiftAfter (above.length + 1)) := by
  have upTo : ∀ text, (numberFrom 1 (above ++ [text])).foldl (stepOver language) initial =
      ((numberFrom 1 above).foldl (stepOver language) initial).stepOver language
        ⟨1 + above.length, text⟩ := by
    intro text
    rw [numberFrom_append, List.foldl_append]
    rfl
  have beyond :
      ∀ text more, (numberFrom 1 (above ++ text :: more)).foldl (stepOver language) initial =
      (numberFrom (above.length + 2) more).foldl (stepOver language)
        ((numberFrom 1 (above ++ [text])).foldl (stepOver language) initial) := by
    intro text more
    rw [upTo, numberFrom_append, List.foldl_append, numberFrom_cons, List.foldl_cons]
    congr 2
    omega
  have unmoved :
      ∀ text, ((numberFrom 1 (above ++ [text])).foldl (stepOver language) initial).renumber
      (shiftAfter (above.length + 1)) =
        (numberFrom 1 (above ++ [text])).foldl (stepOver language) initial := by
    intro text
    refine renumber_eq_self fun symbol member => if_pos ?_
    simpa using foldl_stepOver_line_le language _ member
  have sameState :
      (numberFrom 1 (above ++ [header ++ bodyBrace])).foldl (stepOver language) initial =
      (numberFrom 1 (above ++ [header])).foldl (stepOver language) initial := by
    rw [upTo, upTo, stepOver_append_bodyBrace free isHeader]
  rw [beyond header (['{'] :: below), beyond (header ++ bodyBrace) below, numberFrom_cons,
    List.foldl_cons, stepOver_openingBrace free, ← foldl_stepOver_renumber, unmoved,
      map_renumber_numberFrom (by omega), sameState]

end Context

/-!
## The lines of a program
-/

namespace Text

private theorem lines_append_feed (text more : List Char) :
    lines (text ++ '\n' :: more) = lines (text ++ ['\n']) ++ lines more := by
  have afterCurrent :
      ∀ current, linesFrom current (text ++ '\n' :: more) =
        linesFrom current (text ++ ['\n']) ++ lines more := by
    induction text with
    | nil => intro current; rfl
    | cons c rest ih =>
      intro current
      rw [List.cons_append, List.cons_append, linesFrom, linesFrom]
      split
      · rw [ih, List.cons_append]
      · rw [ih]
  exact afterCurrent []

private theorem lines_joinLines_append (above : List (List Char)) (line : List Char)
    (below : List (List Char)) :
    lines (joinLines (above ++ line :: below)) =
      (above.flatMap fun text => lines (text ++ ['\n'])) ++ lines (joinLines (line :: below)) := by
  induction above with
  | nil => rfl
  | cons text rest ih =>
    obtain ⟨next, others, split⟩ :=
      List.exists_cons_of_ne_nil
        (List.append_ne_nil_of_right_ne_nil rest (List.cons_ne_nil line below))
    rw [List.cons_append, split, joinLines_cons_cons, lines_append_feed, ← split, ih,
      List.flatMap_cons, List.append_assoc]

private theorem dropWhile_append_last (start : List Char) {c : Char}
    (notBlank : isBlank c = false) :
    (start ++ [c]).dropWhile isBlank = start.dropWhile isBlank ++ [c] := by
  rw [List.dropWhile_append]
  split
  · next allBlank => simp [List.isEmpty_iff.mp allBlank, notBlank]
  · rfl

private theorem trim_append_last (start : List Char) {c : Char} (notBlank : isBlank c = false) :
    trim (start ++ [c]) = start.dropWhile isBlank ++ [c] := by
  rw [trim, strip, dropWhile_append_last start notBlank, stripEnd]
  simp [notBlank]

private theorem isBlank_last_of_trim_eq {text : List Char} (trimmed : trim text = text) :
    ∀ c ∈ text.getLast?, isBlank c = false := by
  intro c last
  rw [← trimmed, trim, strip, stripEnd, List.getLast?_reverse] at last
  have first := List.head?_dropWhile_not isBlank (text.dropWhile isBlank).reverse
  rw [last] at first
  simpa using first

end Text

namespace IsHeader

variable {line : List Char} (isHeader : IsHeader line)

include isHeader

theorem trim : IsHeader (Text.trim line) := by
  obtain ⟨start, c, rfl, notBlank, _⟩ := isHeader.ends
  have split :
      start ++ [c] = start.takeWhile Text.isBlank ++ (start.dropWhile Text.isBlank ++ [c]) := by
    rw [← List.append_assoc, List.takeWhile_append_dropWhile]
  rw [Text.trim_append_last start notBlank]
  exact isHeader.of_suffix split (by simp)

private theorem trim_append : Text.trim (line ++ bodyBrace) = Text.trim line ++ bodyBrace := by
  obtain ⟨start, c, rfl, notBlank, _⟩ := isHeader.ends
  have inner :
      (start ++ [c] ++ [' ']).dropWhile Text.isBlank =
        start.dropWhile Text.isBlank ++ [c] ++ [' '] := by
    rw [List.dropWhile_append, Text.dropWhile_append_last start notBlank]
    simp
  have brace : start ++ [c] ++ bodyBrace = start ++ [c] ++ [' '] ++ ['{'] := by simp [bodyBrace]
  rw [brace, Text.trim_append_last _ (by decide), inner, Text.trim_append_last start notBlank]
  simp [bodyBrace]

end IsHeader

/-- Lines up to the header, the header and the lines below it, as a scan sees them. -/
theorem map_trim_lines_at (above below : List (List Char)) {line : List Char}
    (oneLine : '\n' ∉ line) (nonempty : line ≠ []) :
    (Text.lines (Text.joinLines (above ++ line :: below))).map Text.trim =
      (above.flatMap fun text => (Text.lines (text ++ ['\n'])).map Text.trim) ++
        Text.trim line :: (Text.lines (Text.joinLines below)).map Text.trim := by
  rw [Text.lines_joinLines_append, List.map_append, List.map_flatMap,
    Text.map_trim_lines_joinLines_cons oneLine nonempty]

section BraceFree

variable {language : Language} (free : language.BraceFree)

include free

private theorem scan_brace_below_line (above below : List (List Char)) {line : List Char}
    (isHeader : IsHeader line) (oneLine : '\n' ∉ line) :
    scan language (String.ofList (Text.joinLines (above ++ line :: ['{'] :: below))) =
      (scan language (String.ofList (Text.joinLines (above ++ (line ++ bodyBrace) :: below)))).map
        (Symbol.renumber (shiftAfter (Text.lines (Text.joinLines (above ++ [line]))).length)) := by
  have nonempty := isHeader.ne_nil
  have oneLineBraced : '\n' ∉ line ++ bodyBrace := by simpa [bodyBrace] using oneLine
  have number := congrArg List.length (map_trim_lines_at above [] oneLine nonempty)
  rw [List.length_map] at number
  have brace := Text.map_trim_lines_joinLines_cons (by decide : '\n' ∉ ['{']) (by simp) below
  have trimmedBrace : Text.trim ['{'] = ['{'] := by decide
  rw [scan, scan, String.toList_ofList, String.toList_ofList, Context.run_significantLines,
    Context.run_significantLines,
    numberedLines_eq, numberedLines_eq, map_trim_lines_at above _ oneLine nonempty,
    map_trim_lines_at above _ oneLineBraced (by simp [nonempty]), brace, trimmedBrace,
      isHeader.trim_append,
    Context.foldl_stepOver_brace_below free _ _ isHeader.trim, dedup, Context.renumber,
      dedupAfter_renumber, number]
  simp [dedup, Text.joinLines, Text.lines, Text.linesFrom]

end BraceFree

theorem Text.joinLines_split (above : List (List Char)) (first second : List Char)
    (below : List (List Char)) :
    joinLines (above ++ (first ++ '\n' :: second) :: below) =
      joinLines (above ++ first :: second :: below) := by
  induction above with
  | nil =>
    cases below with
    | nil => simp [joinLines, List.intercalate]
    | cons next others => simp [joinLines, List.intercalate]
  | cons text rest ih =>
    cases rest with
    | nil => simpa [joinLines_cons_cons] using ih
    | cons next others => simpa [joinLines_cons_cons] using ih

/-- A header of several lines is its last line under the lines before. -/
theorem IsHeader.exists_last_line {header : List Char} (isHeader : IsHeader header)
    (above : List (List Char)) :
    ∃ front line, IsHeader line ∧ '\n' ∉ line ∧ ∀ tail below,
      Text.joinLines (above ++ (header ++ tail) :: below) =
        Text.joinLines (front ++ (line ++ tail) :: below) := by
  by_cases several : '\n' ∈ header
  · obtain ⟨leading, trailing, split, oneLine⟩ := Text.exists_last_occurrence several
    have nonempty : trailing ≠ [] := by
      rintro rfl
      obtain ⟨start, c, ends, notBlank, _⟩ := isHeader.ends
      obtain ⟨rfl⟩ := List.append_inj_right' (split.symm.trans ends) rfl
      exact absurd notBlank (by decide)
    have ended : header = (leading ++ ['\n']) ++ trailing := by simpa using split
    refine ⟨above ++ [leading], trailing, isHeader.of_suffix ended nonempty, oneLine,
      fun tail below => ?_⟩
    rw [split, List.append_assoc, List.cons_append, Text.joinLines_split, List.append_assoc]
    rfl
  · exact ⟨above, header, isHeader, several, fun _ _ => rfl⟩

/-- In Java and in C a program with the brace of a body behind the header declares the same as the
program with that brace on a line of its own, and what stands below the header is found one line
further down. -/
theorem scan_brace_below {language : Language} (braces : language = .java ∨ language = .c)
    (above below : List (List Char)) {header : List Char} (trimmed : Text.trim header = header)
    (nonempty : header ≠ []) (noOpening : '{' ∉ header) (noClosing : '}' ∉ header)
    (unfinished : header.getLast? ≠ some ';') :
    scan language (String.ofList (Text.joinLines (above ++ header :: ['{'] :: below))) =
      (scan language (String.ofList (Text.joinLines
        (above ++ (header ++ [' ', '{']) :: below)))).map
        (Symbol.renumber
          (shiftAfter (Text.lines (Text.joinLines (above ++ [header]))).length)) := by
  have isHeader : IsHeader header := by
    refine ⟨?_, noOpening, noClosing⟩
    obtain ⟨start, c, rfl⟩ := (List.eq_nil_or_concat header).resolve_left nonempty
    refine ⟨start, c, List.concat_eq_append, Text.isBlank_last_of_trim_eq trimmed c (by simp), ?_⟩
    simpa using unfinished
  obtain ⟨front, line, lineIsHeader, oneLine, joined⟩ := isHeader.exists_last_line above
  have whole := joined []
  simp only [List.append_nil] at whole
  rw [whole, whole, joined]
  exact scan_brace_below_line braces front below lineIsHeader oneLine

theorem function_brace_below :
    let program (lines : List (List Char)) :=
  String.ofList (Text.joinLines (["int a;".toList] ++ lines))
    let header := "int f(int b)".toList
    let below := ["int c;".toList, ['}'], "int d;".toList]
    scan .c (program (header :: ['{'] :: below)) =
        (scan .c (program ((header ++ [' ', '{']) :: below))).map (Symbol.renumber (shiftAfter 2)) ∧
      (scan .c (program (header :: ['{'] :: below))).map
        (fun symbol => (symbol.name, symbol.scope, symbol.line)) =
        [("a", "global", 1), ("f", "global", 2), ("c", "f", 4), ("d", "global", 6)] := by
  refine ⟨?_, by decide⟩
  exact scan_brace_below (.inr rfl) _ _ (by decide) (by decide) (by decide) (by decide) (by decide)

end Symtab
