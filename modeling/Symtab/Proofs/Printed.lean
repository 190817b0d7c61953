import Symtab.Proofs.Layout
import Symtab.Proofs.Words

/-!
# Printed programs

Names that are runs of ASCII word characters, and programs that are printed line by line. A scan
sees such a program as the lines that were printed, in order and numbered from one.
-/

set_option autoImplicit false

namespace Symtab

namespace Text

private theorem linesFrom_append_feed {current line : List Char} (oneLine : '\n' ∉ line)
    (more : List Char) :
    linesFrom current (line ++ '\n' :: more) =
      (dropCarriageReturn (line.reverse ++ current)).reverse :: lines more := by
  induction line generalizing current with
  | nil => rfl
  | cons c rest ih =>
    obtain ⟨notFeed, restOneLine⟩ := List.ne_and_not_mem_of_not_mem_cons oneLine
    rw [List.cons_append, linesFrom, if_neg (Ne.symm notFeed), ih restOneLine]
    simp

theorem map_trim_lines_joinLines_cons {line : List Char} (oneLine : '\n' ∉ line)
    (nonempty : line ≠ []) (below : List (List Char)) :
    (lines (joinLines (line :: below))).map trim =
      trim line :: (lines (joinLines below)).map trim := by
  cases below with
  | nil =>
    have single : lines line = [line] := by
      rw [lines, linesFrom_of_not_mem oneLine]
      simp [nonempty]
    simpa [joinLines, lines, linesFrom] using congrArg (List.map trim) single
  | cons next others =>
    rw [joinLines_cons_cons, lines, linesFrom_append_feed oneLine, List.map_cons,
      trim_dropCarriageReturn]
    simp

end Text

/-!
## Names
-/

namespace Word

variable (word : Word)

theorem declaration_of? (scope : String) (kind : Kind) (dataType : Option (List Char))
    (description : Option String) :
    Declaration.of? scope kind word.text dataType description =
      some
        { name := word.name, kind, scope, dataType := dataType.bind cleanName?, description } := by
  rw [Declaration.of?, word.cleanName?_text, Option.map_some]

theorem scope_openedIf {leftOpen : Bool} (isOpen : leftOpen = true) (kind : ScopeKind) :
    Scope.openedIf leftOpen word.text kind = [⟨word.name, kind⟩] := by
  rw [Scope.openedIf, if_pos isOpen, Scope.of?, word.cleanName?_text]
  rfl

end Word

/-- Whether a character is an ASCII letter, an ASCII digit or `_`. -/
def isAsciiWord (c : Char) : Bool :=
  c.isAlphanum || c == '_'

theorem isWord_of_isAsciiWord {c : Char} (ascii : isAsciiWord c = true) : Text.isWord c = true := by
  rw [isAsciiWord] at ascii
  rw [Text.isWord, ascii, Bool.true_or]

/-- A name: a run of ASCII letters, digits and underscores that is not empty. -/
structure AsciiWord where
  text : List Char
  nonempty : text ≠ []
  ascii : ∀ c ∈ text, isAsciiWord c = true
  deriving DecidableEq

namespace AsciiWord

/-- The name as it is reported. -/
def name (word : AsciiWord) : String :=
  String.ofList word.text

variable (word : AsciiWord)

theorem isWord : ∀ c ∈ word.text, Text.isWord c = true :=
  fun c member => isWord_of_isAsciiWord (word.ascii c member)

/-- The name as a word. -/
def toWord : Word where
  text := word.text
  nonempty := word.nonempty
  isWord := word.isWord

theorem isBlank : ∀ c ∈ word.text, Text.isBlank c = false :=
  word.toWord.isBlank

theorem not_mem {c : Char} (outside : isAsciiWord c = false) : c ∉ word.text := by
  intro member
  rw [word.ascii c member] at outside
  cases outside

theorem exists_cons : ∃ c rest, word.text = c :: rest :=
  word.toWord.exists_cons

theorem strip_text {inClass : Char → Bool} (outside : ∀ c ∈ word.text, inClass c = false) :
    Text.strip inClass word.text = word.text :=
  Text.strip_of_outside outside

theorem cleanName?_text : cleanName? word.text = some word.name :=
  word.toWord.cleanName?_text

theorem any_head?_append (rest : List Char) : (word.text ++ rest).head?.any isAsciiWord = true := by
  obtain ⟨c, others, split⟩ := word.exists_cons
  have ascii := word.ascii c (by rw [split]; exact List.mem_cons_self)
  simp [split, ascii]

theorem isBlank_head?_append (rest : List Char) :
    ∀ c ∈ (word.text ++ rest).head?, Text.isBlank c = false :=
  word.toWord.isBlank_head?_append rest

theorem declaration_of? (scope : String) (kind : Kind) (dataType : Option (List Char))
    (description : Option String) :
    Declaration.of? scope kind word.text dataType description =
      some { name := word.name, kind, scope, dataType := dataType.bind cleanName?, description } :=
  word.toWord.declaration_of? scope kind dataType description

theorem scope_openedIf {leftOpen : Bool} (isOpen : leftOpen = true) (kind : ScopeKind) :
    Scope.openedIf leftOpen word.text kind = [⟨word.name, kind⟩] :=
  word.toWord.scope_openedIf isOpen kind

theorem count_append {c : Char} (outside : isAsciiWord c = false) (rest : List Char) :
    (word.text ++ rest).count c = rest.count c := by
  rw [List.count_append, List.count_eq_zero.mpr (word.not_mem outside), Nat.zero_add]

theorem not_mem_append {c : Char} (outside : isAsciiWord c = false) {rest : List Char}
    (absent : c ∉ rest) :
    c ∉ word.text ++ rest := by
  rw [← List.count_eq_zero, word.count_append outside, List.count_eq_zero]
  exact absent

/-- Two names with a space between them count for nothing but themselves and the space. -/
theorem count_spaced (name : AsciiWord) {c : Char} (outside : isAsciiWord c = false)
    (notSpace : c ≠ ' ') (rest : List Char) :
    (word.text ++ ' ' :: (name.text ++ rest)).count c = rest.count c := by
  rw [word.count_append outside, List.count_cons_of_ne notSpace.symm, name.count_append outside]

/-- A line with the name between two fixed texts. -/
def between (start finish : String) : List Char :=
  start.toList ++ word.text ++ finish.toList

/-- A line with the name and a type, between two fixed texts. -/
def typed (type : AsciiWord) (start finish : String) : List Char :=
  start.toList ++ (word.text ++ (": ".toList ++ (type.text ++ finish.toList)))

theorem not_mem_typed {type : AsciiWord} {c : Char} (outside : isAsciiWord c = false)
    (inMiddle : c ∉ ": ".toList) {start finish : String} (inStart : c ∉ start.toList)
    (inFinish : c ∉ finish.toList) : c ∉ word.typed type start finish := by
  intro member
  rw [typed, List.mem_append, List.mem_append, List.mem_append, List.mem_append] at member
  rcases member with atStart | inName | between | inType | atEnd
  · exact inStart atStart
  · exact word.not_mem outside inName
  · exact inMiddle between
  · exact type.not_mem outside inType
  · exact inFinish atEnd

theorem not_mem_between {c : Char} (outside : isAsciiWord c = false) {start finish : String}
    (inStart : c ∉ start.toList) (inFinish : c ∉ finish.toList) :
    c ∉ word.between start finish := by
  simp [between, inStart, inFinish, word.not_mem outside]

theorem count_between {c : Char} (outside : isAsciiWord c = false) (start finish : String) :
    (word.between start finish).count c = start.toList.count c + finish.toList.count c := by
  simp [between, List.count_append, List.count_eq_zero.mpr (word.not_mem outside)]

end AsciiWord

/-!
## Lines
-/

/-- A line that a scan reads just as it is printed. -/
structure IsPrintedLine (language : Language) (line : List Char) : Prop where
  oneLine : '\n' ∉ line
  trimmed : Text.trim line = line
  significant : language.isSignificant line = true

theorem IsPrintedLine.ne_nil {language : Language} {line : List Char}
    (printed : IsPrintedLine language line) : line ≠ [] := by
  rintro rfl
  have significant := printed.significant
  simp [Language.isSignificant] at significant

private theorem map_trim_lines_joinLines {language : Language} {lines : List (List Char)}
    (printed : ∀ line ∈ lines, IsPrintedLine language line) :
    (Text.lines (Text.joinLines lines)).map Text.trim = lines := by
  induction lines with
  | nil => rfl
  | cons line rest ih =>
    obtain ⟨first, others⟩ := List.forall_mem_cons.mp printed
    rw [Text.map_trim_lines_joinLines_cons first.oneLine first.ne_nil, first.trimmed, ih others]

theorem significantLines_joinLines {language : Language} {lines : List (List Char)}
    (printed : ∀ line ∈ lines, IsPrintedLine language line) :
    significantLines language (Text.joinLines lines) = numberFrom 1 lines := by
  rw [significantLines, numberedLines_eq, map_trim_lines_joinLines printed, List.filter_eq_self]
  intro line member
  have stands := (mem_numberFrom.mp member).2
  exact (printed line.text (List.mem_of_getElem? stands)).significant

/-- A line that starts with no comment is read as it is printed, where comments start with a slash
or a star. -/
theorem isPrintedLine_of_edges {language : Language}
    (markers : language.commentMarkers = [.leading "//", .leading "/*", .leading "*"])
    {line : List Char} (oneLine : '\n' ∉ line)
    (first : line.head?.any fun c => !Text.isBlank c && Pattern.noneOf ['/', '*'] c)
    (last : line.getLast?.any (!Text.isBlank ·)) : IsPrintedLine language line := by
  cases line with
  | nil => cases first
  | cons c rest =>
    have starts : Text.isBlank c = false ∧ c ≠ '/' ∧ c ≠ '*' := by
      simpa [Pattern.noneOf] using first
    have lastNotBlank : ∀ d ∈ (c :: rest).getLast?, Text.isBlank d = false := by
      intro d isLast
      rw [isLast] at last
      simpa using last
    have noSlash : ('/' == c) = false := beq_eq_false_iff_ne.mpr starts.2.1.symm
    have noStar : ('*' == c) = false := beq_eq_false_iff_ne.mpr starts.2.2.symm
    refine ⟨oneLine, Text.strip_eq_self (by simpa using starts.1) lastNotBlank, ?_⟩
    simp [Language.isSignificant, Language.isComment, markers, CommentMarker.marks, List.isPrefixOf,
      noSlash, noStar]

private theorem not_blank_of_isAsciiWord {c : Char} (ascii : isAsciiWord c = true) :
    (!Text.isBlank c && Pattern.noneOf ['/', '*'] c) = true := by
  have word := isWord_of_isAsciiWord ascii
  have noMarker : c ≠ '/' ∧ c ≠ '*' := by
    constructor
    all_goals
      rintro rfl
      exact absurd ascii (by decide)
  simpa [Pattern.noneOf, Text.isBlank_eq_false_of_isWord word] using noMarker

theorem AsciiWord.isPrintedLine_append (word : AsciiWord) {language : Language}
    (markers : language.commentMarkers = [.leading "//", .leading "/*", .leading "*"])
    {rest : List Char} (oneLine : '\n' ∉ rest) (last : rest.getLast?.any (!Text.isBlank ·)) :
    IsPrintedLine language (word.text ++ rest) := by
  refine isPrintedLine_of_edges markers (word.not_mem_append (by decide) oneLine) ?_ ?_
  · obtain ⟨c, others, split⟩ := word.exists_cons
    have ascii := word.ascii c (by rw [split]; exact List.mem_cons_self)
    rw [split]
    exact not_blank_of_isAsciiWord ascii
  · cases ends : rest.getLast? with
    | none =>
      rw [ends] at last
      cases last
    | some c => simpa [ends] using last

/-- A line that starts with a word or a brace and ends in punctuation. -/
theorem isPrintedLine_of_ends {language : Language}
    (markers : language.commentMarkers = [.leading "//", .leading "/*", .leading "*"])
    {line : List Char} (oneLine : '\n' ∉ line)
    (first : line.head?.any fun c => isAsciiWord c || c == '}')
    (last : line.getLast?.any (Pattern.oneOf [';', ',', '{', '}'])) :
    IsPrintedLine language line := by
  refine isPrintedLine_of_edges markers oneLine ?_ ?_
  · cases starts : line.head? with
    | none =>
      rw [starts] at first
      cases first
    | some c =>
      rw [starts, Option.any_some, Bool.or_eq_true, beq_iff_eq] at first
      rcases first with ascii | rfl
      · exact not_blank_of_isAsciiWord ascii
      · decide
  · cases ends : line.getLast? with
    | none =>
      rw [ends] at last
      cases last
    | some d =>
      rw [ends] at last
      have punctuation : d = ';' ∨ d = ',' ∨ d = '{' ∨ d = '}' := by
        simpa [Pattern.oneOf] using last
      rcases punctuation with rfl | rfl | rfl | rfl
      all_goals decide

/-- A body between a line and the brace that closes it. -/
theorem isPrintedLine_block {language : Language}
    (markers : language.commentMarkers = [.leading "//", .leading "/*", .leading "*"])
    {header : List Char} (printed : IsPrintedLine language header) {body : List (List Char)}
    (inside : ∀ line ∈ body, IsPrintedLine language line) :
    ∀ line ∈ header :: (body ++ [['}']]), IsPrintedLine language line := by
  rw [List.forall_mem_cons, List.forall_mem_append, List.forall_mem_singleton]
  exact ⟨printed, inside, isPrintedLine_of_ends markers (by decide) (by decide) (by decide)⟩

section PrintedNames

variable (word : AsciiWord) {language : Language}
  (markers : language.commentMarkers = [.leading "//", .leading "/*", .leading "*"])
    {start finish : String}
  (inStart : '\n' ∉ start.toList) (inFinish : '\n' ∉ finish.toList)
    (first : ∀ c ∈ start.toList.head?, isAsciiWord c = true)
  (last : finish.toList.getLast?.any (Pattern.oneOf [';', ',', '{', '}']))

include first in
theorem AsciiWord.any_head? (rest : List Char) :
    (start.toList ++ (word.text ++ rest)).head?.any (fun c => isAsciiWord c || c == '}') =
      true := by
  obtain ⟨c, others, split⟩ := word.exists_cons
  have ascii := word.ascii c (by rw [split]; exact List.mem_cons_self)
  cases leading : start.toList with
  | nil => simp [split, ascii]
  | cons d more => simp [first d (by rw [leading]; rfl)]

include last in
theorem any_getLast? (text : List Char) :
    (text ++ finish.toList).getLast?.any (Pattern.oneOf [';', ',', '{', '}']) = true := by
  cases trailing : finish.toList.getLast? with
  | none =>
    rw [trailing] at last
    cases last
  | some d =>
    rw [trailing] at last
    simpa [trailing] using last

include markers inStart inFinish first last

theorem AsciiWord.isPrintedLine_between : IsPrintedLine language (word.between start finish) := by
  refine isPrintedLine_of_ends markers (word.not_mem_between (by decide) inStart inFinish) ?_
    (any_getLast? last _)
  rw [between, List.append_assoc]
  exact word.any_head? first _

theorem AsciiWord.isPrintedLine_typed (type : AsciiWord) :
    IsPrintedLine language (word.typed type start finish) := by
  refine isPrintedLine_of_ends markers (word.not_mem_typed (by decide) (by decide) inStart inFinish)
    (word.any_head? first _) ?_
  simp only [typed, ← List.append_assoc]
  exact any_getLast? last _

end PrintedNames

end Symtab
