import Symtab.Proofs.GoTree
import Symtab.Proofs.NameLists

/-!
# Lines of names

A line of names with commas between them, with or without a type and a value, in any layout. These
are the lines that can be read in a group of constants or variables, and each of them can be read in
one way only.
-/

set_option autoImplicit false

namespace Symtab.GoTree

open Rules.Go Pattern

/-- A type written without blanks. -/
structure TypeWord where
  text : List Char
  nonempty : text ≠ []
  inType : ∀ c ∈ text, wordOr ['.', '*', '[', ']'] c = true

theorem isBlank_of_inType {c : Char} (inType : wordOr ['.', '*', '[', ']'] c = true) :
    Text.isBlank c = false :=
  isBlank_of_wordOr (by decide) inType

theorem TypeWord.exists_first (type : TypeWord) :
    ∃ c rest, type.text = c :: rest ∧ wordOr ['.', '*', '[', ']'] c = true := by
  obtain ⟨c, rest, split⟩ := List.exists_cons_of_ne_nil type.nonempty
  exact ⟨c, rest, split, type.inType c (by rw [split]; exact List.mem_cons_self)⟩

theorem TypeWord.cleanName?_text (type : TypeWord) :
    cleanName? type.text = some (String.ofList type.text) :=
  cleanName?_of_clean type.nonempty (fun c member => isBlank_of_inType (type.inType c member))
    fun c member => isQuote_of_wordOr (by decide) (type.inType c member)

/-- The texts that a match keeps of the type. -/
def typeCaptures : Option TypeWord → Captures
  | none => []
  | some type => [(.type, type.text)]

theorem text?_type (type : Option TypeWord) {slot : Slot} (other : (Slot.type == slot) = false)
    (kept : List Char) :
    Captures.text? (typeCaptures type ++ [(slot, kept)]) .type = type.map TypeWord.text := by
  cases type with
  | none =>
    change List.lookup Slot.type [(slot, kept)] = none
    rw [List.lookup_cons, other]
    rfl
  | some type => rfl

/-- A type with the white space before it. -/
structure SpacedType where
  space : Gap
  nonempty : space.text ≠ []
  type : TypeWord

/-- Names with commas between them, the type that they are given, if any, and what is assigned to
them, if anything. -/
structure SpecLine where
  first : Word
  others : List FurtherName
  type : Option SpacedType
  gap : Gap
  value : Option (List Char)

def SpacedType.text (type : SpacedType) : List Char :=
  type.space.text ++ type.type.text

namespace SpecLine

variable (spec : SpecLine)

def names : List Word :=
  spec.first :: spec.others.map FurtherName.name

def namesText : List Char :=
  spec.first.text ++ spec.others.flatMap FurtherName.text

/-- The sign of the assignment and what follows it; nothing where the line ends before it. -/
def ending : List Char :=
  match spec.value with
  | none => []
  | some value => '=' :: value

/-- What stands behind the names. -/
def rest : List Char :=
  (spec.type.elim [] SpacedType.text) ++ (spec.gap.text ++ spec.ending)

def text : List Char :=
  spec.namesText ++ spec.rest

end SpecLine

/-- The names of a list, the blank one left out. -/
theorem SpecLine.identifiers_namesText (spec : SpecLine) :
    identifiers spec.namesText =
      (spec.names.filter fun name => name.text != ['_']).map Word.text := by
  have pieces : commaSeparated spec.namesText = spec.names.map Word.text := by
    have listed := commaSeparated_names ⟨[], List.forall_mem_nil _⟩ spec.first spec.others
    rw [List.nil_append] at listed
    rw [namesText, listed, names, List.map_cons, List.map_map]
    rfl
  have present :
      ∀ name : Word, (!name.text.isEmpty && name.text != ['_']) = (name.text != ['_']) := by
    intro name
    have nonempty : name.text.isEmpty = false := by simpa using name.nonempty
    rw [nonempty, Bool.not_false, Bool.true_and]
  rw [identifiers, pieces, List.filter_map]
  exact congrArg (List.map Word.text) (List.filter_congr fun name _ => present name)

/-!
## Matches
-/

theorem groupEnd_find?_eq_none {c : Char} (different : c ≠ ')') (rest : List Char) :
    groupEnd.pattern.find? (c :: rest) = none := by
  have anchored : groupEnd.pattern.Anchored := trivial
  exact anchored.find?_eq_none
    (blocked_of_next (by simp [groupEnd]) (by simpa [groupEnd] using different.symm) [] rest)

namespace SpecLine

variable (spec : SpecLine)

private theorem head?_ending : ∀ c ∈ spec.ending.head?, c = '=' := by
  rw [ending]
  cases spec.value with
  | none => exact fun c first => nomatch first
  | some value => exact fun c first => (Option.some.inj first).symm

private theorem isBlank_head?_ending : ∀ c ∈ spec.ending.head?, Text.isBlank c = false := by
  intro c first
  rw [spec.head?_ending c first]
  decide

/-- Behind the names there is white space, or nothing, and then the type, the sign of the assignment
or the end of the line. -/
theorem exists_rest : ∃ gap : Gap, ∃ more, spec.rest = gap.text ++ more ∧
    (∀ c ∈ more.head?, Text.isBlank c = false ∧ c ≠ ',') ∧
    (gap.text = [] → ∀ c ∈ more.head?, Text.isWord c = false) := by
  rw [rest]
  cases spec.type with
  | none =>
    refine ⟨spec.gap, spec.ending, rfl, fun c first => ?_, fun _ c first => ?_⟩
    · rw [spec.head?_ending c first]
      decide
    · rw [spec.head?_ending c first]
      decide
  | some type =>
    obtain ⟨c, others, split, inType⟩ := type.type.exists_first
    refine ⟨type.space, type.type.text ++ (spec.gap.text ++ spec.ending), List.append_assoc _ _ _,
      ?_, fun empty => absurd empty type.nonempty⟩
    rw [split]
    intro d first
    obtain rfl : c = d := Option.some.inj first
    refine ⟨isBlank_of_inType inType, ?_⟩
    rintro rfl
    exact absurd inType (by decide)

theorem takes_names (before : List Char) (captures : Captures) :
    nameList.Takes ⟨before, spec.text⟩ ⟨spec.namesText.reverse ++ before, spec.rest⟩ captures
      captures := by
  obtain ⟨gap, more, split, ends, stops⟩ := spec.exists_rest
  have outside : ∀ c ∈ spec.rest.head?, Text.isWord c = false := by
    rw [split]
    cases spelled : gap.text with
    | nil => exact stops spelled
    | cons d blanks =>
      exact stops_before (Text.isWord_eq_false_of_isBlank
        (gap.blank d (by rw [spelled]; exact List.mem_cons_self))) _
  have last : ∀ before, nextName.Blocked ⟨before, spec.rest⟩ := by
    rw [split]
    exact nextName_blocked gap ends
  exact Pattern.takes_names outside last spec.first spec.others before captures

/-- Where no type stands behind the names, none can be read there. -/
theorem type_blocked (before : List Char) :
    (blanks1 ++ capture .type typeName).Blocked ⟨before, spec.gap.text ++ spec.ending⟩ := by
  rw [ending]
  cases spec.value with
  | none =>
    have requires : (blanks1 ++ capture .type typeName).Requires (Text.isBlank · = false) :=
      .inr (.inl fun c inType => isBlank_of_inType inType)
    refine blocked_of_requires requires ?_
    simpa using spec.gap.blank
  | some value =>
    have ahead : (spec.gap.text ++ '=' :: value).find? (!Text.isBlank ·) = some '=' := by
      rw [find?_append_of_skipped spec.gap.blank]
      rfl
    refine blocked_of_not_meets ?_ ahead ?_
    · rintro ⟨-, ⟨c, inType, blank⟩, -⟩
      rw [isBlank_of_inType inType] at blank
      cases blank
    · have notBlank : Text.isBlank '=' = false := by decide
      have notType : wordOr ['.', '*', '[', ']'] '=' = false := by decide
      simp [notBlank, typeName, notType]

/-- The type, if there is one, and the white space behind it. -/
theorem takes_rest (before : List Char) (captures : Captures) :
    ∃ later, (optionalType ++ blanks).Takes ⟨before, spec.rest⟩ ⟨later, spec.ending⟩ captures
      (typeCaptures (spec.type.map SpacedType.type) ++ captures) := by
  have gap (before : List Char) (captures : Captures) :=
    takes_many spec.gap.blank spec.isBlank_head?_ending before captures
  rw [rest]
  cases spec.type with
  | none => exact ⟨_, (takes_optional_nothing (spec.type_blocked before) captures).append (gap _ _)⟩
  | some type =>
    have stops :
        ∀ c ∈ (spec.gap.text ++ spec.ending).head?, wordOr ['.', '*', '[', ']'] c = false := by
      refine Text.head?_append_of (fun c first => ?_) (fun c first => ?_)
      · cases inType : wordOr ['.', '*', '[', ']'] c with
        | false => rfl
        | true =>
          exact absurd (spec.gap.blank c (List.mem_of_head? first))
            (by simp [isBlank_of_inType inType])
      · rw [spec.head?_ending c first]
        decide
    have first :
        ∀ c ∈ (type.type.text ++ (spec.gap.text ++ spec.ending)).head?, Text.isBlank c = false := by
      obtain ⟨c, others, split, inType⟩ := type.type.exists_first
      rw [split]
      exact stops_before (isBlank_of_inType inType) _
    have typed := ((takes_many1 type.nonempty type.space.blank first before captures).append
      ((takes_many1 type.type.nonempty type.type.inType stops _ captures).capture .type)).optionally
    rw [Option.elim_some, SpacedType.text, List.append_assoc]
    exact ⟨_, typed.append (gap _ _)⟩

private theorem takes_ending (before : List Char) (captures : Captures) :
    ∃ later, valueOrEnd.Takes ⟨before, spec.ending⟩ later captures captures := by
  rw [ending]
  cases spec.value with
  | none =>
    exact ⟨_, .secondChoice (blocked_of_not_mem (c := '=') (by simp) List.not_mem_nil)
      (takes_lineEnd before captures)⟩
  | some value => exact ⟨_, .firstChoice (takes_literal ['='] before value captures)⟩

/-- The texts that a match keeps of a line of names. -/
def captures : Captures :=
  typeCaptures (spec.type.map SpacedType.type) ++ [(.names, spec.namesText)]

theorem takes_text (before : List Char) :
    ∃ later, (capture .names nameList ++ optionalType ++ blanks ++ valueOrEnd).Takes
      ⟨before, spec.text⟩ later [] spec.captures := by
  obtain ⟨later, rest⟩ :=
    spec.takes_rest (spec.namesText.reverse ++ before) [(.names, spec.namesText)]
  obtain ⟨last, finish⟩ := spec.takes_ending later spec.captures
  have named :
      (capture .names nameList).Takes ⟨before, spec.text⟩
        ⟨spec.namesText.reverse ++ before, spec.rest⟩ []
      [(.names, spec.namesText)] := (spec.takes_names before []).capture .names
  exact ⟨last, (named.append rest).assoc.append finish⟩

theorem groupSpec_finds : groupSpec.pattern.Finds spec.text spec.captures := by
  obtain ⟨later, read⟩ := spec.takes_text []
  have whole : groupSpec.pattern.Takes ⟨[], spec.text⟩ later [] spec.captures :=
    (takes_lineStart _ []).append read
  exact whole.finds

end SpecLine

/-!
## Readings
-/

private theorem exists_type_of_reads {before text rest : List Char} {captures kept : Captures}
    (reads : optionalType.Reads before text rest captures kept) :
    ∃ type : Option SpacedType, text = type.elim [] SpacedType.text := by
  rcases reads with ⟨space, type, _, rfl, readSpace, ⟨_, readType, _⟩⟩ | ⟨rfl, _⟩
  · obtain ⟨nonempty, blank, _⟩ := readSpace.of_many1
    obtain ⟨nonemptyType, inType, _⟩ := readType.of_many1
    exact ⟨some ⟨⟨space, blank⟩, nonempty, ⟨type, nonemptyType, inType⟩⟩, rfl⟩
  · exact ⟨none, rfl⟩

/-- Whatever the rule for a group matches is a line of names. -/
theorem exists_specLine_of_isMatch {line : List Char} {found : Match}
    (isMatch : groupSpec.pattern.IsMatch line found) :
    ∃ spec : SpecLine, spec.text = line := by
  obtain ⟨before, _, rest, _, rfl, reads, _⟩ := isMatch
  have anchored : groupSpec.pattern.Anchored := trivial
  obtain rfl := reads.before_eq_nil anchored
  obtain ⟨_, ending, _, rfl, ⟨_, gap, _, rfl,
    ⟨_, typed, _, rfl, ⟨_, names, _, rfl, ⟨⟨rfl, _⟩, _⟩, ⟨_, readNames, _⟩⟩, readType⟩, ⟨blank, _⟩⟩,
    readEnding⟩ := reads
  obtain ⟨first, others, rfl⟩ := exists_names_of_reads readNames
  obtain ⟨type, rfl⟩ := exists_type_of_reads readType
  rcases readEnding with ⟨rfl, _⟩ | ⟨⟨rfl, rfl⟩, _⟩
  · exact ⟨⟨first, others, type, ⟨gap, blank⟩, some rest⟩,
      by simp [SpecLine.text, SpecLine.namesText, SpecLine.rest, SpecLine.ending]⟩
  · exact ⟨⟨first, others, type, ⟨gap, blank⟩, none⟩,
      by simp [SpecLine.text, SpecLine.namesText, SpecLine.rest, SpecLine.ending]⟩

theorem groupSpec_find?_isSome_iff {line : List Char} :
    (groupSpec.pattern.find? line).isSome ↔ ∃ spec : SpecLine, spec.text = line := by
  constructor
  · intro matched
    obtain ⟨found, same⟩ := Option.isSome_iff_exists.mp matched
    exact exists_specLine_of_isMatch (isMatch_of_find? same)
  · rintro ⟨spec, rfl⟩
    obtain ⟨found, same, _⟩ := spec.groupSpec_finds
    exact Option.isSome_iff_exists.mpr ⟨found, same⟩

/-!
## In a group
-/

namespace SpecLine

variable (spec : SpecLine)

/-- What is reported of one of the names. -/
def declaration (kind : Kind) (scope : String) (name : Word) : Declaration where
  name := name.name
  kind := kind
  scope := scope
  dataType := spec.type.map fun type => String.ofList type.type.text

/-- What the line declares in a group: all of the names but the blank one. -/
def declarations (kind : Kind) (scope : String) : List Declaration :=
  (spec.names.filter fun name => name.text != ['_']).map (spec.declaration kind scope)

theorem text?_names : spec.captures.text? .names = some spec.namesText := by
  rw [captures]
  cases spec.type with
  | none => rfl
  | some type => rfl

theorem filterMap_identifiers (kind : Kind) (scope : String) :
    ((identifiers spec.namesText).filterMap fun name =>
      Declaration.of? scope kind name (spec.captures.text? .type)) =
      spec.declarations kind scope := by
  have each (name : Word) :
      Declaration.of? scope kind name.text ((spec.type.map SpacedType.type).map TypeWord.text) =
      some (spec.declaration kind scope name) := by
    rw [name.declaration_of?, declaration]
    cases spec.type with
    | none => rfl
    | some type => simp [type.type.cleanName?_text]
  rw [identifiers_namesText, List.filterMap_map, captures, text?_type _ (by decide), declarations,
    ← List.filterMap_eq_map]
  exact congrArg (List.filterMap · _) (funext each)

/-- The line starts with a word. -/
theorem exists_first : ∃ c rest, spec.text = c :: rest ∧ Text.isWord c = true := by
  obtain ⟨c, others, split, word⟩ := spec.first.exists_first
  exact ⟨c, others ++ spec.others.flatMap FurtherName.text ++ spec.rest,
    by simp [text, namesText, split], word⟩

variable {number : Nat} {context : Context}

theorem step_inside {kind : Kind} (inside : groupKind? context.group = some kind) :
    context.step .go ⟨number, spec.text⟩ =
      context.apply .go number
        { declarations := spec.declarations kind context.scopes.current } := by
  obtain ⟨c, rest, split, word⟩ := spec.exists_first
  have notImports : context.group ≠ some .imports := by
    intro same
    rw [same] at inside
    cases inside
  have notEnd : groupEnd.pattern.find? spec.text = none := by
    have notParen : c ≠ ')' := by
      rintro rfl
      exact absurd word (by decide)
    rw [split]
    exact groupEnd_find?_eq_none notParen rest
  have passed :
      ∀ other ∈ [groupEnd, groupImport], other.tryLine .go number spec.text context =
        (context, false) := by
    rw [List.forall_mem_cons, List.forall_mem_singleton]
    exact ⟨Context.tryLine_of_find?_eq_none notEnd,
      Context.tryLine_of_declines fun captures => if_pos notImports⟩
  have notBrace : spec.text ≠ ['}'] := by
    intro same
    rw [split, List.cons.injEq] at same
    rw [same.1] at word
    exact absurd word (by decide)
  refine Context.step_of_passed [groupEnd, groupImport] groupSpec _ rfl passed
    (List.forall_mem_nil _) spec.groupSpec_finds ?_ rfl notBrace
  simp only [groupSpec, inside, spec.text?_names]
  change some ({ declarations := _ } : Effect) = _
  rw [spec.filterMap_identifiers]

end SpecLine

end Symtab.GoTree
