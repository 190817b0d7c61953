import Symtab.Proofs.Excerpt
import Symtab.Proofs.LeadingWords

/-!
# Lists of names

Names with commas between them, in any layout. Such a list is read to its end where what follows is
no further name, and cutting it at its commas gives the names back.
-/

set_option autoImplicit false

namespace Symtab

/-- White space, or nothing. -/
structure Gap where
  text : List Char
  blank : ∀ c ∈ text, Text.isBlank c = true

/-- A name of a list with the comma before it. -/
structure FurtherName where
  before : Gap
  after : Gap
  name : Word

def FurtherName.text (further : FurtherName) : List Char :=
  further.before.text ++ ',' :: (further.after.text ++ further.name.text)

theorem Gap.isWord_head?_append (gap : Gap) {rest : List Char}
    (stops : ∀ c ∈ rest.head?, Text.isWord c = false) :
    ∀ c ∈ (gap.text ++ rest).head?, Text.isWord c = false :=
  Text.head?_append_of
    (fun c first => Text.isWord_eq_false_of_isBlank (gap.blank c (List.mem_of_head? first))) stops

/-!
## Pieces
-/

private theorem commaSeparated_append (start rest : List Char) :
    commaSeparated (start ++ ',' :: rest) = commaSeparated start ++ commaSeparated rest := by
  rw [commaSeparated, List.splitOn_append_cons_self, List.map_append]
  rfl

/-- A text that holds a single name, whatever the white space around it. -/
theorem commaSeparated_name (before after : Gap) (name : Word) :
    commaSeparated (before.text ++ (name.text ++ after.text)) = [name.text] := by
  have noComma : ',' ∉ before.text ++ (name.text ++ after.text) := by
    have notBlank (gap : Gap) : ',' ∉ gap.text :=
      fun member => absurd (gap.blank ',' member) (by decide)
    simp [notBlank, name.not_mem (c := ',') (by decide)]
  have trimmed : Text.trim (before.text ++ (name.text ++ after.text)) = name.text := by
    rw [Text.trim, Text.strip_append before.blank, Text.strip_append_right after.blank]
    exact name.trim_text
  rw [commaSeparated, List.splitOn_eq_singleton noComma, List.map_singleton, trimmed]

theorem commaSeparated_names (before : Gap) (name : Word) (others : List FurtherName) :
    commaSeparated (before.text ++ (name.text ++ others.flatMap FurtherName.text)) =
      name.text :: others.map fun further => further.name.text := by
  induction others generalizing before name with
  | nil => exact commaSeparated_name before ⟨[], List.forall_mem_nil _⟩ name
  | cons further others ih =>
    have spelled : before.text ++ (name.text ++ (further :: others).flatMap FurtherName.text) =
        (before.text ++ (name.text ++ further.before.text)) ++
          ',' :: (further.after.text ++ (further.name.text ++
            others.flatMap FurtherName.text)) := by
      simp [FurtherName.text]
    rw [spelled, commaSeparated_append, commaSeparated_name, ih]
    rfl

/-!
## Readings
-/

namespace Pattern

theorem find?_append_of_skipped {skip : Char → Bool} {start : List Char}
    (skipped : ∀ c ∈ start, skip c = true) (rest : List Char) :
    (start ++ rest).find? (!skip ·) = rest.find? (!skip ·) := by
  have none : start.find? (!skip ·) = none := by simpa using skipped
  rw [List.find?_append, none, Option.none_or]

/-- A further name of a list. -/
def nextName : Pattern :=
  blanks ++ char ',' ++ blanks ++ word

/-- Names with commas between them. -/
def names : Pattern :=
  word ++ repeated nextName

/-- A list of names ends where the next character that is not blank is no comma. -/
theorem nextName_blocked (gap : Gap) {rest : List Char}
    (ends : ∀ c ∈ rest.head?, Text.isBlank c = false ∧ c ≠ ',') (before : List Char) :
    nextName.Blocked ⟨before, gap.text ++ rest⟩ := by
  have comma : Text.isBlank ',' = false := by decide
  cases rest with
  | nil =>
    have absent : ',' ∉ gap.text ++ [] := by
      rw [List.append_nil]
      exact fun member => absurd (gap.blank ',' member) (by decide)
    exact blocked_of_not_mem (by simp [nextName]) absent
  | cons c rest =>
    obtain ⟨visible, different⟩ := ends c rfl
    have ahead : (gap.text ++ c :: rest).find? (!Text.isBlank ·) = some c := by
      rw [find?_append_of_skipped gap.blank]
      simp [visible]
    refine blocked_of_not_meets ?_ ahead ?_
    · simp [nextName, comma]
    · simp [nextName, visible, comma, different.symm]

section Names

variable {rest : List Char} (stops : ∀ c ∈ rest.head?, Text.isWord c = false)
  (ends : ∀ before, nextName.Blocked ⟨before, rest⟩)

include stops

private theorem isWord_head?_further (others : List FurtherName) :
    ∀ c ∈ (others.flatMap FurtherName.text ++ rest).head?, Text.isWord c = false := by
  cases others with
  | nil => exact stops
  | cons further others =>
    rw [List.flatMap_cons, FurtherName.text, List.append_assoc, List.append_assoc]
    exact further.before.isWord_head?_append (stops_before (by decide) _)

include ends

private theorem takes_further (others : List FurtherName) (before : List Char)
    (captures : Captures) :
    (repeated nextName).Takes ⟨before, others.flatMap FurtherName.text ++ rest⟩
      ⟨(others.flatMap FurtherName.text).reverse ++ before, rest⟩ captures captures := by
  induction others generalizing before with
  | nil => exact takes_repeated_nothing (ends before) captures
  | cons further others ih =>
    have stuck : ¬nextName.Passes fun _ => false := by simp [nextName]
    have round :=
      (((takes_many further.before.blank (stops_before (c := ',') (by decide) _) before
        captures).append
      (takes_literal [','] _ _ captures)).append
        (takes_many further.after.blank (further.name.isBlank_head?_append _) _ captures)).append
          (further.name.takes_word (isWord_head?_further stops others) _ captures)
    simpa [FurtherName.text] using Takes.repeatedRound stuck round (ih _)

theorem takes_names (first : Word) (others : List FurtherName) (before : List Char)
    (captures : Captures) :
    names.Takes ⟨before, first.text ++ others.flatMap FurtherName.text ++ rest⟩
      ⟨(first.text ++ others.flatMap FurtherName.text).reverse ++ before, rest⟩ captures
        captures := by
  have whole := (first.takes_word (isWord_head?_further stops others) before captures).append
    (takes_further stops ends others (first.text.reverse ++ before) captures)
  rw [List.reverse_append, List.append_assoc, List.append_assoc]
  exact whole

end Names

private theorem exists_further_of_reads {before text rest : List Char} {captures kept : Captures}
    (reads : (repeated nextName).Reads before text rest captures kept) :
    ∃ others : List FurtherName, text = others.flatMap FurtherName.text := by
  induction reads with
  | stop => exact ⟨[], rfl⟩
  | more first _ ih =>
    obtain ⟨_, name, _, rfl, ⟨_, after, _, rfl, ⟨gap, _, _, rfl, ⟨blank, _⟩, ⟨rfl, _⟩⟩,
      ⟨blankAfter, _⟩⟩, readName⟩ := first
    obtain ⟨nonempty, isWord, _⟩ := readName.of_many1
    obtain ⟨others, rfl⟩ := ih
    exact ⟨⟨⟨gap, blank⟩, ⟨after, blankAfter⟩, ⟨name, nonempty, isWord⟩⟩ :: others,
      by simp [FurtherName.text]⟩

theorem exists_names_of_reads {before text rest : List Char} {captures kept : Captures}
    (reads : names.Reads before text rest captures kept) :
    ∃ (first : Word) (others : List FurtherName),
      text = first.text ++ others.flatMap FurtherName.text := by
  obtain ⟨name, further, _, rfl, readName, readFurther⟩ := reads
  obtain ⟨nonempty, isWord, _⟩ := readName.of_many1
  obtain ⟨others, rfl⟩ := exists_further_of_reads readFurther
  exact ⟨⟨name, nonempty, isWord⟩, others, rfl⟩

end Pattern

end Symtab
