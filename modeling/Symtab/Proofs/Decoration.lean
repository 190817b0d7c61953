import Symtab.Proofs.Words
import Symtab.Report.Table
import Symtab.Text.Cut

/-!
# Colours as decoration

A styled cell is the plain cell between two escape sequences, with its padding inside. Where no text
that is shown has an escape character of its own, a report with colours is therefore the report
without them, once all escape sequences are deleted from it.
-/

set_option autoImplicit false

namespace Symtab

theorem Text.length_of_dropPrefix? {leading text rest : List Char}
    (found : dropPrefix? leading text = some rest) :
    text.length = leading.length + rest.length := by
  rw [dropPrefix?] at found
  split at found
  · next starts =>
    cases found
    have fits := (List.isPrefixOf_iff_prefix.mp starts).length_le
    rw [List.length_drop]
    omega
  · cases found

namespace Style

/-- The character that escape sequences start with. -/
def escape : Char := '\x1b'

/-- Whether a character can stand between the opening bracket of an escape sequence and the letter
that ends it. -/
def isParameter (c : Char) : Bool :=
  c.isDigit || c == ';'

/-- What follows the escape sequence that a text starts with: the escape character, an opening
bracket, digits and semicolons, and the letter `m`. -/
def afterSequence? (text : List Char) : Option (List Char) := do
  let parameters ← Text.dropPrefix? [escape, '['] text
  Text.dropPrefix? ['m'] (parameters.dropWhile isParameter)

private theorem afterSequence?_shorter {text rest : List Char}
    (found : afterSequence? text = some rest) : rest.length < text.length := by
  obtain ⟨parameters, opened, closed⟩ := Option.bind_eq_some_iff.mp found
  have first := Text.length_of_dropPrefix? opened
  have second := Text.length_of_dropPrefix? closed
  have run : (parameters.dropWhile isParameter).length ≤ parameters.length :=
    (List.dropWhile_suffix _).length_le
  simp only [List.length_cons, List.length_nil] at first second
  omega

/-- The text without its escape sequences. -/
def withoutSequences : List Char → List Char
  | [] => []
  | c :: rest =>
    match _found : afterSequence? (c :: rest) with
    | some after => withoutSequences after
    | none => c :: withoutSequences rest
termination_by text => text.length
decreasing_by
  · exact afterSequence?_shorter _found
  · exact Nat.lt_succ_self _

private theorem withoutSequences_of_afterSequence? {text rest : List Char}
    (found : afterSequence? text = some rest) :
    withoutSequences text = withoutSequences rest := by
  cases text with
  | nil => cases found
  | cons c text =>
    rw [withoutSequences]
    split
    · next after same => rw [found] at same; cases same; rfl
    · next none => rw [found] at none; cases none

private theorem afterSequence?_of_ne {c : Char} (plain : c ≠ escape) (rest : List Char) :
    afterSequence? (c :: rest) = none := by
  have notEscape : Text.dropPrefix? [escape, '['] (c :: rest) = none := by
    rw [Text.dropPrefix?, List.isPrefixOf_cons_cons, beq_false_of_ne plain.symm, Bool.false_and,
      if_neg Bool.false_ne_true]
  rw [afterSequence?, notEscape]
  rfl

private theorem withoutSequences_append {plain : List Char} (absent : escape ∉ plain)
    (rest : List Char) :
    withoutSequences (plain ++ rest) = plain ++ withoutSequences rest := by
  induction plain with
  | nil => rfl
  | cons c plain ih =>
    obtain ⟨first, others⟩ := List.ne_and_not_mem_of_not_mem_cons absent
    have kept := afterSequence?_of_ne (Ne.symm first) (plain ++ rest)
    rw [List.cons_append, withoutSequences]
    split
    · next found => rw [kept] at found; cases found
    · rw [ih others]; rfl

private theorem withoutSequences_sequence {parameters : List Char}
    (each : ∀ c ∈ parameters, isParameter c = true) (rest : List Char) :
    withoutSequences (escape :: '[' :: (parameters ++ 'm' :: rest)) = withoutSequences rest := by
  apply withoutSequences_of_afterSequence?
  have opened :
      Text.dropPrefix? [escape, '['] (escape :: '[' :: (parameters ++ 'm' :: rest)) =
        some (parameters ++ 'm' :: rest) := by
    simp [Text.dropPrefix?]
  have skipped : (parameters ++ 'm' :: rest).dropWhile isParameter = 'm' :: rest := by
    rw [List.dropWhile_append_of_pos each]
    rfl
  rw [afterSequence?, opened, Option.bind_eq_bind, Option.bind_some, skipped]
  simp [Text.dropPrefix?]

/-- The sequence that opens a style has the codes of the style between its bracket and its
letter. -/
theorem withoutSequences_opening (style : Style) (rest : List Char) :
    withoutSequences (style.opening ++ rest) = withoutSequences rest := by
  have each :
      ∀ c ∈ [';'].intercalate (style.codes.map (Nat.toDigits 10)), isParameter c = true := by
    refine forall_mem_intercalate (by decide) fun piece member c inside => ?_
    obtain ⟨code, -, rfl⟩ := List.mem_map.mp member
    rw [isParameter, Nat.isDigit_of_mem_toDigits (by decide) (by decide) inside, Bool.true_or]
  rw [opening, List.cons_append, List.cons_append, List.append_assoc]
  exact withoutSequences_sequence each rest

private theorem withoutSequences_reset (rest : List Char) :
    withoutSequences (reset ++ rest) = withoutSequences rest :=
  withoutSequences_sequence (List.forall_mem_singleton.mpr rfl) rest

private theorem reopen_of_not_mem (start : List Char) {text : List Char} (absent : escape ∉ text) :
    reopen start text = text := by
  induction text with
  | nil => rfl
  | cons c rest ih =>
    obtain ⟨first, others⟩ := List.ne_and_not_mem_of_not_mem_cons absent
    unfold reopen
    split
    · next same => cases same; exact absurd rfl first
    · next same => cases same; rw [ih others]
    · next same => cases same

end Style

theorem Alignment.not_mem_pad {alignment : Alignment} {width : Nat} {text : List Char}
    (absent : Style.escape ∉ text) :
    Style.escape ∉ alignment.pad width text := by
  have notBlank : Style.escape ∉ List.replicate (width - text.length) ' ' := fun member =>
    absurd (List.eq_of_mem_replicate member) (by decide)
  cases alignment with
  | left => exact List.not_mem_append absent notBlank
  | right => exact List.not_mem_append notBlank absent

/-- The text has no escape character. -/
def EscapeFree (text : String) : Prop :=
  Style.escape ∉ text.toList

instance (text : String) : Decidable (EscapeFree text) :=
  inferInstanceAs (Decidable (_ ∉ _))

namespace Cell

/-- The text of the cell has no escape character. -/
def Plain (cell : Cell) : Prop :=
  EscapeFree cell.text

instance (cell : Cell) : Decidable cell.Plain :=
  inferInstanceAs (Decidable (EscapeFree cell.text))

/-- The padded text stands between the sequences of its style, which has nothing to be opened
again. -/
theorem Plain.render_eq {cell : Cell} (plain : cell.Plain) (colored : Bool) :
    cell.render colored =
      if colored && !cell.style.codes.isEmpty then
        cell.style.opening ++ cell.alignment.pad cell.width cell.text.toList ++ Style.reset
      else
        cell.alignment.pad cell.width cell.text.toList := by
  unfold render
  dsimp only
  rw [Style.reopen_of_not_mem _ plain]

theorem Plain.withoutSequences_render {cell : Cell} (plain : cell.Plain) (rest : List Char) :
    Style.withoutSequences (cell.render true ++ rest) =
      cell.render false ++ Style.withoutSequences rest := by
  have absent : Style.escape ∉ cell.alignment.pad cell.width cell.text.toList :=
    Alignment.not_mem_pad plain
  have off : cell.render false = cell.alignment.pad cell.width cell.text.toList := rfl
  rw [off, plain.render_eq]
  split
  · rw [List.append_assoc, List.append_assoc, Style.withoutSequences_opening,
      Style.withoutSequences_append absent, Style.withoutSequences_reset]
  · exact Style.withoutSequences_append absent rest

private theorem withoutSequences_flatMap_render {cells : List Cell}
    (plain : ∀ cell ∈ cells, cell.Plain) (rest : List Char) :
    Style.withoutSequences (cells.flatMap (render true) ++ rest) =
      cells.flatMap (render false) ++ Style.withoutSequences rest := by
  induction cells with
  | nil => rfl
  | cons cell cells ih =>
    obtain ⟨first, others⟩ := List.forall_mem_cons.mp plain
    rw [List.flatMap_cons, List.flatMap_cons, List.append_assoc, List.append_assoc,
      first.withoutSequences_render, ih others]

end Cell

/-- No cell of the row has an escape character. -/
def Row.Plain (row : Row) : Prop :=
  ∀ cell ∈ row.cells, cell.Plain

namespace Table

private theorem withoutSequences_flatMap_renderRow {rows : List Row}
    (plain : ∀ row ∈ rows, row.Plain) :
    Style.withoutSequences (rows.flatMap (renderRow true)) = rows.flatMap (renderRow false) := by
  induction rows with
  | nil => rw [List.flatMap_nil, Style.withoutSequences]; rfl
  | cons row rows ih =>
    obtain ⟨first, others⟩ := List.forall_mem_cons.mp plain
    have lineEnd : Style.escape ∉ ['\n'] := by decide
    rw [List.flatMap_cons, List.flatMap_cons, renderRow, renderRow, List.append_assoc,
      List.append_assoc, Cell.withoutSequences_flatMap_render first,
      Style.withoutSequences_append lineEnd, ih others]

end Table

/-!
## The texts of a report
-/

theorem EscapeFree.append {first second : String} (free : EscapeFree first)
    (freeToo : EscapeFree second) :
    EscapeFree (first ++ second) := by
  rw [EscapeFree, String.toList_append]
  exact List.not_mem_append free freeToo

private theorem escapeFree_repr (n : Nat) : EscapeFree (Nat.repr n) := by
  rw [EscapeFree, Nat.toList_repr]
  intro member
  have digit := Nat.isDigit_of_mem_toDigits (by decide) (by decide) member
  revert digit
  decide

/-- The words of the closing line have no escape character. -/
theorem escapeFree_totals (symbols files : Nat) :
    EscapeFree (Nat.repr symbols ++ " symbols in " ++ Nat.repr files ++ " file" ++
      if files = 1 then "" else "s") := by
  have plural : EscapeFree (if files = 1 then "" else "s") := by
    split
    · decide
    · decide
  have counted : EscapeFree (Nat.repr symbols ++ " symbols in ") :=
    (escapeFree_repr symbols).append (by decide)
  exact ((counted.append (escapeFree_repr files)).append (by decide)).append plural

theorem Kind.escapeFree_id (kind : Kind) : EscapeFree kind.id := by
  cases kind <;> decide

theorem Kind.escapeFree_label (kind : Kind) : EscapeFree kind.label := by
  cases kind <;> decide

theorem Language.escapeFree_displayName (language : Language) :
    EscapeFree language.displayName := by
  cases language <;> decide

/-- No text of the symbol has an escape character. -/
structure Symbol.EscapeFree (symbol : Symbol) : Prop where
  name : Symtab.EscapeFree symbol.name
  scope : Symtab.EscapeFree symbol.scope
  dataType : ∀ text ∈ symbol.dataType, Symtab.EscapeFree text
  description : ∀ text ∈ symbol.description, Symtab.EscapeFree text

theorem Symbol.EscapeFree.dataType_getD {symbol : Symbol} (free : symbol.EscapeFree)
    {default : String} (freeDefault : Symtab.EscapeFree default) :
    Symtab.EscapeFree (symbol.dataType.getD default) := by
  cases typed : symbol.dataType with
  | none => exact freeDefault
  | some text => exact free.dataType text typed

theorem Symbol.EscapeFree.describe {symbol : Symbol} (free : symbol.EscapeFree) :
    Symtab.EscapeFree symbol.describe := by
  have dataType : Symtab.EscapeFree (symbol.dataType.getD "unknown") :=
    free.dataType_getD (by decide)
  unfold Symbol.describe
  cases described : symbol.description with
  | some text => exact free.description text described
  | none =>
    cases symbol.kind with
    | «variable» => exact EscapeFree.append (by decide) dataType
    | property => exact EscapeFree.append (by decide) dataType
    | parameter => exact EscapeFree.append (by decide) dataType
    | _ => dsimp only; decide

/-- Neither the path of the file nor a text of its symbols has an escape character. -/
structure ScannedFile.EscapeFree (file : ScannedFile) : Prop where
  path : Symtab.EscapeFree file.path
  symbols : ∀ symbol ∈ file.symbols, symbol.EscapeFree

theorem ScannedFile.EscapeFree.shownPath {file : ScannedFile} (free : file.EscapeFree) :
    Symtab.EscapeFree file.shownPath := by
  rw [Symtab.EscapeFree, ScannedFile.shownPath, String.toList_map]
  intro member
  obtain ⟨c, inPath, shown⟩ := List.mem_map.mp member
  split at shown
  · exact absurd shown (by decide)
  · exact free.path (shown ▸ inPath)

namespace Table

private theorem plain_columns {line kind name scope dataType description : Cell}
    (plainLine : line.Plain) (plainKind : kind.Plain) (plainName : name.Plain)
    (plainScope : scope.Plain) (plainType : dataType.Plain) (plainDescription : description.Plain) :
    (columns line kind name scope dataType description).Plain := by
  simp only [Row.Plain, columns, List.forall_mem_cons]
  exact ⟨by decide, plainLine, by decide, plainKind, by decide, plainName, by decide, plainScope,
    by decide, plainType, by decide, plainDescription, List.forall_mem_nil _⟩

private theorem plain_titles : titles.Plain :=
  plain_columns (by decide) (by decide) (by decide) (by decide) (by decide) (by decide)

private theorem plain_symbolRow {symbol : Symbol} (free : symbol.EscapeFree) :
    (symbolRow symbol).Plain :=
  plain_columns (escapeFree_repr symbol.line) symbol.kind.escapeFree_id free.name free.scope
    (free.dataType_getD (by decide))
    free.describe

private theorem plain_emptyRow : emptyRow.Plain :=
  List.forall_mem_nil _

private theorem plain_heading : ∀ row ∈ heading, row.Plain := by
  simp only [heading, List.forall_mem_cons]
  exact ⟨plain_emptyRow, by simp only [Row.Plain, List.forall_mem_cons]; decide, plain_emptyRow,
    List.forall_mem_nil _⟩

private theorem plain_fileSection {file : ScannedFile} (free : file.EscapeFree) :
    ∀ row ∈ fileSection file, row.Plain := by
  have shownLanguage : EscapeFree ("(" ++ file.language.displayName ++ ")") :=
    (EscapeFree.append (by decide) file.language.escapeFree_displayName).append (by decide)
  have caption : Row.Plain ⟨[plain "  ", styled file.shownPath { color := some .blue }, plain " ",
      styled ("(" ++ file.language.displayName ++ ")") { dimmed := true }]⟩ := by
    simp only [Row.Plain, List.forall_mem_cons]
    exact ⟨by decide, free.shownPath, by decide, shownLanguage, List.forall_mem_nil _⟩
  refine List.forall_mem_append.mpr
    ⟨List.forall_mem_cons.mpr ⟨caption, ?_⟩, List.forall_mem_singleton.mpr plain_emptyRow⟩
  split
  · refine List.forall_mem_singleton.mpr ?_
    simp only [Row.Plain, List.forall_mem_cons]
    decide
  · refine List.forall_mem_cons.mpr ⟨plain_titles, fun row member => ?_⟩
    obtain ⟨symbol, listed, rfl⟩ := List.mem_map.mp member
    exact plain_symbolRow (free.symbols symbol listed)

private theorem plain_countRow (entry : KindCount) : (countRow entry).Plain := by
  simp only [Row.Plain, countRow, List.forall_mem_cons]
  exact ⟨by decide, entry.kind.escapeFree_label, by decide, escapeFree_repr entry.count,
    List.forall_mem_nil _⟩

private theorem plain_summary (counts : List KindCount) : ∀ row ∈ summary counts, row.Plain := by
  refine List.forall_mem_append.mpr ⟨List.forall_mem_cons.mpr ⟨?_, fun row member => ?_⟩,
    List.forall_mem_singleton.mpr plain_emptyRow⟩
  · simp only [Row.Plain, List.forall_mem_cons]
    decide
  · obtain ⟨entry, -, rfl⟩ := List.mem_map.mp member
    exact plain_countRow entry

private theorem plain_footer (files : List ScannedFile) : (footer files).Plain := by
  simp only [Row.Plain, footer, List.forall_mem_cons]
  exact ⟨by decide, escapeFree_totals (totalSymbols files) files.length, List.forall_mem_nil _⟩

private theorem plain_rows {files : List ScannedFile} (free : ∀ file ∈ files, file.EscapeFree)
    (withCounts : Bool) :
    ∀ row ∈ rows files withCounts, row.Plain := by
  have sections : ∀ row ∈ files.flatMap fileSection, row.Plain := by
    intro row member
    obtain ⟨file, listed, inside⟩ := List.mem_flatMap.mp member
    exact plain_fileSection (free file listed) row inside
  refine List.forall_mem_append.mpr
    ⟨List.forall_mem_append.mpr ⟨List.forall_mem_append.mpr ⟨plain_heading, sections⟩, ?_⟩,
      List.forall_mem_singleton.mpr (plain_footer files)⟩
  split
  · exact plain_summary (kindCounts (allSymbols files))
  · exact List.forall_mem_nil _

/-- A report with colours is the report without them, once its escape sequences are deleted. -/
theorem colors_only_decorate (files : List ScannedFile) (free : ∀ file ∈ files, file.EscapeFree)
    (withCounts : Bool) :
    Style.withoutSequences (render true files withCounts).toList =
      (render false files withCounts).toList := by
  rw [render, render, String.toList_ofList, String.toList_ofList]
  exact withoutSequences_flatMap_renderRow (plain_rows free withCounts)

/-- A path with a backslash, a name that is wider than its column, and a type and a description of
the symbol's own. -/
theorem colors_decorate_wide_row :
    let symbol : Symbol :=
      { name := "a_name_of_more_than_twenty_eight_letters", kind := .constant, scope := "global",
        line := 100000,
        dataType := some "&'static [u8]", language := .rust, description := some "a constant" }
    let files : List ScannedFile := [⟨"src\\lib.rs", .rust, [symbol]⟩, ⟨"empty.go", .go, []⟩]
    (∀ file ∈ files, file.EscapeFree) ∧
      Style.withoutSequences (render true files true).toList =
        (render false files true).toList := by
  intro symbol files
  have plainSymbol : symbol.EscapeFree :=
    ⟨by decide, by decide, by simp only [symbol, Option.mem_some_iff, forall_eq']; decide,
      by simp only [symbol, Option.mem_some_iff, forall_eq']; decide⟩
  have free : ∀ file ∈ files, file.EscapeFree := by
    refine List.forall_mem_cons.mpr
      ⟨⟨by decide, ?_⟩, List.forall_mem_singleton.mpr ⟨by decide, List.forall_mem_nil _⟩⟩
    exact List.forall_mem_singleton.mpr plainSymbol
  exact ⟨free, colors_only_decorate files free true⟩

end Table

end Symtab
