import Symtab.Proofs.Words
import Symtab.Rules

/-!
# Parts of texts

What the text operations of the rules leave of a text is always a run of consecutive characters of
it, and so is what a rule names after cleaning. The pieces of a text that is cut at separators are
exactly its runs between separators.
-/

set_option autoImplicit false

namespace Symtab

namespace Text

private theorem stripEnd_isPrefix (inClass : Char → Bool) (text : List Char) :
    stripEnd inClass text <+: text := by
  have suffix := List.dropWhile_suffix inClass (l := text.reverse)
  simpa [stripEnd] using List.reverse_prefix.mpr suffix

theorem strip_isInfix (inClass : Char → Bool) (text : List Char) : strip inClass text <:+: text :=
  (stripEnd_isPrefix inClass _).isInfix.trans (List.dropWhile_suffix inClass).isInfix

theorem trim_isInfix (text : List Char) : trim text <:+: text :=
  strip_isInfix isBlank text

/-- The part stands in the text between separators or the ends of the text. -/
def StandsBetween (separates : Char → Bool) (text part : List Char) : Prop :=
  ∃ before after, text = before ++ (part ++ after) ∧ (∀ c ∈ before.getLast?, separates c = true) ∧
    ∀ c ∈ after.head?, separates c = true

section Pieces

variable {separates : Char → Bool} {text part : List Char}

theorem StandsBetween.append_cons {c : Char} (stands : StandsBetween separates text part)
    (edge : separates c = true) (front : List Char) :
    StandsBetween separates (front ++ c :: text) part := by
  obtain ⟨before, after, rfl, left, right⟩ := stands
  refine ⟨front ++ c :: before, after, by simp, fun d last => ?_, right⟩
  cases before with
  | nil =>
    rw [List.getLast?_append, List.getLast?_singleton, Option.some_or] at last
    cases last
    exact edge
  | cons e before =>
    rw [List.getLast?_append, List.getLast?_cons_cons] at last
    rw [List.getLast?_eq_some_getLast (List.cons_ne_nil e before), Option.some_or] at last
    exact left d (by rw [List.getLast?_eq_some_getLast (List.cons_ne_nil e before)]; exact last)

/-- The induction is on what is still to be cut, with the piece `run` that has been begun. -/
theorem standsBetween_of_mem_splitOnP (run : List Char) (begun : ∀ c ∈ run, separates c = false)
    (member : part ∈ (run ++ text).splitOnP separates) :
    StandsBetween separates (run ++ text) part := by
  induction text generalizing run with
  | nil =>
    rw [List.append_nil] at member ⊢
    rw [List.splitOnP_eq_singleton begun, List.mem_singleton] at member
    exact ⟨[], [], by simp [member], by simp, by simp⟩
  | cons c rest ih =>
    cases edge : separates c with
    | true =>
      rw [List.splitOnP_append_cons_of_forall_mem begun c edge, List.mem_cons] at member
      cases member with
      | inl whole => exact ⟨[], c :: rest, by rw [whole]; rfl, by simp, by simpa using edge⟩
      | inr later => exact (ih [] (by simp) later).append_cons edge run
    | false =>
      have longer : run ++ c :: rest = run ++ [c] ++ rest := by simp
      rw [longer] at member ⊢
      refine ih (run ++ [c]) (fun d inside => ?_) member
      cases List.mem_append.mp inside with
      | inl earlier => exact begun d earlier
      | inr last => rwa [List.mem_singleton.mp last]

private theorem mem_splitOnP_append_of_head? {after : List Char}
    (free : ∀ c ∈ part, separates c = false) (right : ∀ c ∈ after.head?, separates c = true) :
    part ∈ (part ++ after).splitOnP separates := by
  cases after with
  | nil => rw [List.append_nil, List.splitOnP_eq_singleton free]; exact List.mem_singleton_self part
  | cons c rest =>
    rw [List.splitOnP_append_cons_of_forall_mem free c (right c rfl)]
    exact List.mem_cons_self

theorem StandsBetween.mem_splitOnP (stands : StandsBetween separates text part)
    (free : ∀ c ∈ part, separates c = false) :
    part ∈ text.splitOnP separates := by
  obtain ⟨before, after, rfl, left, right⟩ := stands
  have atStart := mem_splitOnP_append_of_head? free right
  cases List.eq_nil_or_concat before with
  | inl empty => rwa [empty]
  | inr split =>
    obtain ⟨front, c, rfl⟩ := split
    have edge : separates c = true := left c (by simp)
    rw [List.concat_eq_append, List.append_assoc, List.singleton_append,
      List.splitOnP_append_cons front _ edge]
    exact List.mem_append_right _ atStart

theorem mem_splitOnP_iff (free : ∀ c ∈ part, separates c = false) :
    part ∈ text.splitOnP separates ↔ StandsBetween separates text part :=
  ⟨standsBetween_of_mem_splitOnP [] (by simp), fun stands => stands.mem_splitOnP free⟩

end Pieces

theorem infix_of_mem_splitOnP {separates : Char → Bool} {text piece : List Char}
    (member : piece ∈ text.splitOnP separates) :
    piece <:+: text := by
  obtain ⟨before, after, whole, -, -⟩ := standsBetween_of_mem_splitOnP [] (by simp) member
  exact ⟨before, after, by rw [List.append_assoc, ← whole, List.nil_append]⟩

theorem infix_of_mem_splitOn {separator : Char} {text piece : List Char}
    (member : piece ∈ text.splitOn separator) :
    piece <:+: text := by
  rw [List.splitOn_eq_splitOnP] at member
  exact infix_of_mem_splitOnP member

theorem append_of_cut? {needle text start finish : List Char}
    (found : cut? needle text = some (start, finish)) :
    text = start ++ needle ++ finish := by
  induction text generalizing start with
  | nil =>
    unfold cut? at found
    split at found
    · next empty =>
      cases found
      simpa using empty
    · cases found
  | cons c rest ih =>
    unfold cut? at found
    split at found
    · next leads =>
      cases found
      obtain ⟨remaining, whole⟩ := List.isPrefixOf_iff_prefix.mp leads
      simp [← whole]
    · obtain ⟨⟨before, after⟩, later, same⟩ := Option.map_eq_some_iff.mp found
      cases same
      simp [ih later]

theorem before_isPrefix (needle text : List Char) : before needle text <+: text := by
  unfold before
  split
  · next start finish found =>
    rw [append_of_cut? found, List.append_assoc]
    exact List.prefix_append start _
  · exact List.prefix_rfl

theorem dropLeading_suffix (leading text : List Char) : dropLeading leading text <:+ text := by
  fun_induction dropLeading leading text with
  | case1 text _ ih => exact ih.trans (List.drop_suffix _ text)
  | case2 text _ => exact List.suffix_rfl

private theorem afterLast_isInfix (separator : Char) (text : List Char) :
    afterLast separator text <:+: text := by
  unfold afterLast
  cases last : (text.splitOn separator).getLast? with
  | none => exact List.infix_rfl
  | some piece => exact infix_of_mem_splitOn (List.mem_of_getLast? last)

theorem lastSegment_isInfix (separator : Char) (path : List Char) :
    lastSegment separator path <:+: path :=
  (trim_isInfix _).trans (afterLast_isInfix separator path)

theorem prefix_of_dropSuffix? {trailing text rest : List Char}
    (dropped : dropSuffix? trailing text = some rest) :
    rest <+: text ∧ trailing <:+ text := by
  unfold dropSuffix? at dropped
  split at dropped
  · next ends =>
    cases dropped
    exact ⟨List.take_prefix _ text, List.isSuffixOf_iff_suffix.mp ends⟩
  · cases dropped

/-!
### What is left is not empty
-/

theorem afterLast_of_not_mem {separator : Char} {text : List Char} (absent : separator ∉ text) :
    afterLast separator text = text := by
  simp [afterLast, List.splitOn_eq_singleton absent]

theorem afterLast_append_cons {separator : Char} (leading : List Char) {trailing : List Char}
    (absent : separator ∉ trailing) :
    afterLast separator (leading ++ separator :: trailing) = trailing := by
  simp [afterLast, List.splitOn_append_cons_self, List.splitOn_eq_singleton absent]

theorem exists_last_occurrence {c : Char} {text : List Char} (member : c ∈ text) :
    ∃ leading trailing, text = leading ++ c :: trailing ∧ c ∉ trailing := by
  obtain ⟨trailing, leading, split, absent⟩ :=
    List.eq_append_cons_of_mem (List.mem_reverse.mpr member)
  refine ⟨leading.reverse, trailing.reverse, ?_, by simpa using absent⟩
  simpa using congrArg List.reverse split

/-- A text that does not end in the separator has its last character in the part after it. -/
theorem mem_afterLast {separator c : Char} {text : List Char} (last : text.getLast? = some c)
    (different : c ≠ separator) :
    c ∈ afterLast separator text := by
  by_cases present : separator ∈ text
  · obtain ⟨leading, trailing, rfl, absent⟩ := exists_last_occurrence present
    rw [afterLast_append_cons leading absent]
    cases trailing with
    | nil => simp [Ne.symm different] at last
    | cons d rest =>
      have inTrailing : (d :: rest).getLast? = some c := by simpa using last
      exact List.mem_of_getLast? inTrailing
  · rw [afterLast_of_not_mem present]
    exact List.mem_of_getLast? last

private theorem lastSegment_ne_nil {separator c : Char} {path : List Char}
    (last : path.getLast? = some c) (different : c ≠ separator) (notBlank : isBlank c = false) :
    lastSegment separator path ≠ [] :=
  strip_ne_nil (mem_afterLast last different) notBlank

private theorem getLast?_stripEnd {inClass : Char → Bool} {text : List Char}
    (nonempty : stripEnd inClass text ≠ []) :
    ∃ c, (stripEnd inClass text).getLast? = some c ∧ c ∈ text ∧ inClass c = false := by
  have kept : text.reverse.dropWhile inClass ≠ [] := by simpa [stripEnd] using nonempty
  obtain ⟨c, rest, split⟩ := List.exists_cons_of_ne_nil kept
  refine ⟨c, by simp [stripEnd, split], ?_, ?_⟩
  · have member : c ∈ text.reverse.dropWhile inClass := by simp [split]
    exact List.mem_reverse.mp ((List.dropWhile_suffix inClass).subset member)
  · have head := List.head_dropWhile_not inClass kept
    simpa [split] using head

/-!
### Where a text is cut
-/

section Cut

variable {b : Char} {start : List Char} (absent : b ∉ start) (needle rest : List Char)

include absent

/-- The first occurrence is not in front of the first character that it starts with. -/
theorem cut?_append :
    cut? (b :: needle) (start ++ rest) = (cut? (b :: needle) rest).map fun pieces =>
      (start ++ pieces.1, pieces.2) := by
  induction start with
  | nil => simp
  | cons c start ih =>
    obtain ⟨different, absentBelow⟩ := List.ne_and_not_mem_of_not_mem_cons absent
    have notHere : (b :: needle).isPrefixOf (c :: (start ++ rest)) = false := by
      simp [List.isPrefixOf, different]
    rw [List.cons_append, cut?, notHere, if_neg Bool.false_ne_true, ih absentBelow, Option.map_map]
    rfl

theorem cut?_append_needle :
    cut? (b :: needle) (start ++ (b :: needle ++ rest)) = some (start, rest) := by
  have here : cut? (b :: needle) (b :: (needle ++ rest)) = some ([], rest) := by
    have leads : (b :: needle).isPrefixOf (b :: (needle ++ rest)) = true := by simp
    rw [cut?, if_pos leads]
    simp
  rw [cut?_append absent, List.cons_append, here, Option.map_some, List.append_nil]

private theorem before_append :
    before (b :: needle) (start ++ rest) = start ++ before (b :: needle) rest := by
  rw [before, before, cut?_append absent]
  cases cut? (b :: needle) rest with
  | none => rfl
  | some pieces => rfl

theorem before_append_needle : before (b :: needle) (start ++ (b :: needle ++ rest)) = start := by
  rw [before, cut?_append_needle absent]

theorem before_of_not_mem : before (b :: needle) start = start := by
  have whole := before_append absent needle []
  rw [List.append_nil] at whole
  rw [whole]
  exact List.append_nil start

end Cut

section Occurrence

variable {needle : List Char} (nonempty : needle ≠ [])

include nonempty

/-- A text is cut exactly if the piece occurs in it. -/
theorem cut?_eq_none_iff {text : List Char} : cut? needle text = none ↔ ¬needle <:+: text := by
  induction text with
  | nil => simp [cut?, nonempty]
  | cons c rest ih =>
    rw [List.infix_cons_iff, cut?]
    by_cases leads : needle <+: c :: rest
    · simp [leads, List.isPrefixOf_iff_prefix.mpr leads]
    · have notHere : ¬needle.isPrefixOf (c :: rest) = true := by rwa [List.isPrefixOf_iff_prefix]
      rw [if_neg notHere, Option.map_eq_none_iff, ih]
      simp [leads]

theorem before_of_not_infix {text : List Char} (absent : ¬needle <:+: text) :
    before needle text = text := by
  rw [before, (cut?_eq_none_iff nonempty).mpr absent]

/-- An occurrence comes before all that are not over where the text ends. -/
theorem cut?_append_of_some {text start finish : List Char}
    (found : cut? needle text = some (start, finish)) (rest : List Char) :
    cut? needle (text ++ rest) = some (start, finish ++ rest) := by
  induction text generalizing start with
  | nil => simp [cut?, nonempty] at found
  | cons c below ih =>
    rw [List.cons_append]
    unfold cut? at found ⊢
    split at found
    · next leads =>
      have here := List.isPrefixOf_iff_prefix.mp leads
      have stillHere : needle.isPrefixOf (c :: (below ++ rest)) = true :=
        List.isPrefixOf_iff_prefix.mpr (here.trans (List.prefix_append (c :: below) rest))
      cases found
      rw [if_pos stillHere, ← List.cons_append, List.drop_append_of_le_length here.length_le]
    · next notHere =>
      obtain ⟨⟨above, behind⟩, later, same⟩ := Option.map_eq_some_iff.mp found
      cases same
      have fits : needle.length ≤ (c :: below).length := by
        have whole := congrArg List.length (append_of_cut? later)
        simp only [List.length_append] at whole
        rw [List.length_cons]
        omega
      have stillNot : ¬needle.isPrefixOf (c :: (below ++ rest)) = true := by
        intro leads
        have long := List.isPrefixOf_iff_prefix.mp leads
        exact notHere (List.isPrefixOf_iff_prefix.mpr
          (List.prefix_of_prefix_length_le long (List.prefix_append (c :: below) rest) fits))
      rw [if_neg stillNot, ih later]
      rfl

variable {text : List Char} (present : needle <:+: text)

include present

private theorem exists_cut? : ∃ start finish, cut? needle text = some (start, finish) := by
  cases found : cut? needle text with
  | none => exact absurd present ((cut?_eq_none_iff nonempty).mp found)
  | some pieces => exact ⟨pieces.1, pieces.2, rfl⟩

theorem before_append_of_infix (rest : List Char) :
    before needle (text ++ rest) = before needle text := by
  obtain ⟨start, finish, found⟩ := exists_cut? nonempty present
  rw [before, before, cut?_append_of_some nonempty found, found]

theorem length_before_add : (before needle text).length + needle.length ≤ text.length := by
  obtain ⟨start, finish, found⟩ := exists_cut? nonempty present
  have whole := congrArg List.length (append_of_cut? found)
  simp only [List.length_append] at whole
  rw [before, found]
  dsimp only
  omega

end Occurrence

theorem stripEnd_append {inClass : Char → Bool} {text run : List Char}
    (last : ∀ c ∈ text.getLast?, inClass c = false) (inside : ∀ c ∈ run, inClass c = true) :
    stripEnd inClass (text ++ run) = text := by
  rw [stripEnd, List.reverse_append, List.dropWhile_append_of_pos (by simpa using inside)]
  exact stripEnd_of_getLast? last

theorem dropWhile_append_of_head? {inClass : Char → Bool} {rest : List Char}
    (first : ∀ c ∈ rest.head?, inClass c = false) (text : List Char) :
    (text ++ rest).dropWhile inClass = text.dropWhile inClass ++ rest := by
  rw [List.dropWhile_append, dropWhile_of_head? first]
  split
  · next empty => rw [List.isEmpty_iff.mp empty, List.nil_append]
  · rfl

theorem strip_append {inClass : Char → Bool} {run : List Char}
    (inside : ∀ c ∈ run, inClass c = true) (text : List Char) :
    strip inClass (run ++ text) = strip inClass text := by
  rw [strip, List.dropWhile_append_of_pos inside, strip]

theorem head?_strip (inClass : Char → Bool) (text : List Char) :
    ∀ c ∈ (strip inClass text).head?, inClass c = false := by
  intro c first
  obtain ⟨rest, kept⟩ := List.head?_eq_some_iff.mp first
  obtain ⟨dropped, whole⟩ := stripEnd_isPrefix inClass (text.dropWhile inClass)
  have leads : (text.dropWhile inClass).head? = some c := by
    rw [← whole]
    exact congrArg List.head? (congrArg (· ++ dropped) kept)
  have outside := List.head?_dropWhile_not inClass text
  rw [leads] at outside
  simpa using outside

theorem getLast?_strip (inClass : Char → Bool) (text : List Char) :
    ∀ c ∈ (strip inClass text).getLast?, inClass c = false := by
  intro c last
  have nonempty : stripEnd inClass (text.dropWhile inClass) ≠ [] :=
    List.ne_nil_of_mem (List.mem_of_getLast? last)
  obtain ⟨d, isLast, -, outside⟩ := getLast?_stripEnd nonempty
  have same : c = d := Option.some.inj (last.symm.trans isLast)
  rw [same]
  exact outside

theorem strip_strip (inClass : Char → Bool) (text : List Char) :
    strip inClass (strip inClass text) = strip inClass text :=
  strip_eq_self (head?_strip inClass text) (getLast?_strip inClass text)

/-- What is taken off the end of a text is a run of the class. -/
theorem exists_stripEnd_append (inClass : Char → Bool) (text : List Char) :
    ∃ run, text = stripEnd inClass text ++ run ∧ ∀ c ∈ run, inClass c = true := by
  refine ⟨(text.reverse.takeWhile inClass).reverse, ?_,
    fun c member => List.mem_takeWhile_imp (List.mem_reverse.mp member)⟩
  rw [stripEnd, ← List.reverse_append, List.takeWhile_append_dropWhile, List.reverse_reverse]

theorem strip_append_right {inClass : Char → Bool} {run : List Char}
    (inside : ∀ c ∈ run, inClass c = true) (text : List Char) :
    strip inClass (text ++ run) = strip inClass text := by
  rw [strip, strip, List.dropWhile_append]
  split
  · next empty =>
    have all : run.dropWhile inClass = [] := List.dropWhile_eq_nil_iff.mpr inside
    rw [all, List.isEmpty_iff.mp empty]
  · rw [stripEnd, List.reverse_append,
      List.dropWhile_append_of_pos (by simpa using inside), stripEnd]

theorem dropSuffix?_append (text trailing : List Char) :
    dropSuffix? trailing (text ++ trailing) = some text := by
  simp [dropSuffix?]

/-!
### Pieces put together
-/

section Pieces

variable {α β : Type} {first second : α → List β} {items : List α}

private theorem length_flatMap_le
    (shorter : ∀ item ∈ items, (second item).length ≤ (first item).length) :
    (items.flatMap second).length ≤ (items.flatMap first).length := by
  induction items with
  | nil => exact Nat.le_refl 0
  | cons item items ih =>
    rw [List.forall_mem_cons] at shorter
    rw [List.flatMap_cons, List.flatMap_cons, List.length_append, List.length_append]
    exact Nat.add_le_add shorter.1 (ih shorter.2)

/-- Where no piece is longer in the second list of pieces, the pieces make up the same whole only if
they are the same. -/
theorem flatMap_eq_iff (shorter : ∀ item ∈ items, (second item).length ≤ (first item).length) :
    items.flatMap first = items.flatMap second ↔ ∀ item ∈ items, first item = second item := by
  induction items with
  | nil => simp
  | cons item items ih =>
    rw [List.forall_mem_cons] at shorter
    rw [List.flatMap_cons, List.flatMap_cons, List.forall_mem_cons, ← ih shorter.2]
    constructor
    · intro same
      have lengths := congrArg List.length same
      rw [List.length_append, List.length_append] at lengths
      have total := length_flatMap_le shorter.2
      exact List.append_inj same (by omega)
    · rintro ⟨here, later⟩
      rw [here, later]

end Pieces

end Text

theorem WordPath.lastSegment_text (path : WordPath) :
    Text.lastSegment ':' path.text = path.last.text := by
  have noColon : ':' ∉ path.last.text := path.last.not_mem (by decide)
  rcases path.text_eq with single | ⟨start, split⟩
  · rw [Text.lastSegment, single, Text.afterLast_of_not_mem noColon, path.last.trim_text]
  · rw [Text.lastSegment, split, Text.afterLast_append_cons start noColon, path.last.trim_text]

theorem infix_of_mem_commaSeparated {text piece : List Char}
    (member : piece ∈ commaSeparated text) : piece <:+: text := by
  obtain ⟨raw, split, rfl⟩ := List.mem_map.mp member
  exact (Text.trim_isInfix raw).trans (Text.infix_of_mem_splitOn split)

/-- The name is not empty and stands in the line as a run of consecutive characters. -/
def IsExcerpt (line : List Char) (name : String) : Prop :=
  name ≠ "" ∧ name.toList <:+: line

theorem isExcerpt_ofList {line text : List Char} (nonempty : text ≠ []) (part : text <:+: line) :
    IsExcerpt line (String.ofList text) :=
  ⟨by simpa using nonempty, by simpa using part⟩

theorem isExcerpt_of_cleanName? {line raw : List Char} {name : String} (part : raw <:+: line)
    (cleaned : cleanName? raw = some name) : IsExcerpt line name := by
  have inner : Text.trim (Text.strip isQuote (Text.trim raw)) <:+: raw :=
    (Text.trim_isInfix _).trans ((Text.strip_isInfix isQuote _).trans (Text.trim_isInfix raw))
  unfold cleanName? at cleaned
  split at cleaned
  · cases cleaned
  · next nonempty =>
    cases cleaned
    exact isExcerpt_ofList (by simpa using nonempty) (inner.trans part)

/-!
## Names in lists and paths
-/

namespace Rules

theorem JavaScript.boundLocal_isInfix (binding : List Char) :
    JavaScript.boundLocal binding <:+: binding :=
  (Text.dropLeading_suffix _ _).isInfix.trans
    ((Text.trim_isInfix _).trans ((Text.afterLast_isInfix ':' _).trans
    (List.takeWhile_prefix _).isInfix))

theorem JavaScript.infix_of_mem_importedItems {items item : List Char}
    (member : item ∈ JavaScript.importedItems items) :
    item <:+: items := by
  obtain ⟨raw, split, rfl⟩ := List.mem_map.mp member
  have part : Text.trim (Text.before " as ".toList raw) <:+: raw :=
    (Text.trim_isInfix _).trans (Text.before_isPrefix _ raw).isInfix
  exact (Text.dropLeading_suffix _ _).isInfix.trans (part.trans (Text.infix_of_mem_splitOn split))

theorem Python.importTarget_isInfix (item : List Char) : Python.importTarget item <:+: item :=
  (Text.trim_isInfix _).trans (Text.before_isPrefix _ item).isInfix

theorem Python.importedModule_isInfix (item : List Char) :
    Python.importedModule item <:+: item := by
  unfold Python.importedModule
  split
  · exact Python.importTarget_isInfix item
  · exact (List.takeWhile_prefix _).isInfix.trans (Text.trim_isInfix item)

theorem Python.importedMember_isInfix {line module item : List Char}
    (moduleInside : module <:+: line) (itemInside : item <:+: line) :
    Python.importedMember module item <:+: line := by
  unfold Python.importedMember
  dsimp only
  split
  · exact moduleInside
  · exact ((Python.importTarget_isInfix _).trans
      ((Text.strip_isInfix _ _).trans (Text.trim_isInfix item))).trans itemInside

theorem Go.infix_of_mem_identifiers {list name : List Char} (member : name ∈ Go.identifiers list) :
    name <:+: list :=
  infix_of_mem_commaSeparated (List.mem_filter.mp member).1

theorem Cpp.qualifyingClass_isInfix (qualification : List Char) :
    Cpp.qualifyingClass qualification <:+: qualification :=
  (Text.lastSegment_isInfix ':' _).trans (Text.stripEnd_isPrefix _ qualification).isInfix

/-- The class of a qualified name stands in the name, and a qualified name without blanks has one
that is not empty. -/
theorem Cpp.ownerOf?_part {qualified name owner : List Char}
    (found : Cpp.ownerOf? qualified name = some owner) :
    owner <:+: qualified ∧ ((∀ c ∈ qualified, Text.isBlank c = false) → owner ≠ []) := by
  obtain ⟨qualification, dropped, chosen⟩ := Option.bind_eq_some_iff.mp found
  have leads := (Text.prefix_of_dropSuffix? dropped).1
  dsimp only at chosen
  split at chosen
  · cases chosen
  · next nonempty =>
    cases chosen
    refine ⟨(Cpp.qualifyingClass_isInfix qualification).trans leads.isInfix, fun noBlank => ?_⟩
    obtain ⟨c, last, member, notColon⟩ := Text.getLast?_stripEnd (by simpa using nonempty)
    exact Text.lastSegment_ne_nil last (by simpa using notColon) (noBlank c (leads.subset member))

namespace Rust

private theorem splitTree_isInfix (tree : List Char) :
    (splitTree tree).1 <:+: tree ∧ (splitTree tree).2 <:+: tree := by
  unfold splitTree
  split
  · next brace rest opened =>
    have inside : rest <:+: tree := by
      have after : brace :: rest <:+ tree := opened ▸ List.dropWhile_suffix _
      exact ((List.suffix_cons brace rest).trans after).isInfix
    refine ⟨(Text.stripEnd_isPrefix _ _).isInfix.trans (List.takeWhile_prefix _).isInfix, ?_⟩
    dsimp only
    split
    · have closed : (rest.reverse.dropWhile (· != '}')).tail.reverse <+: rest := by
        have suffix :=
          (List.tail_suffix _).trans (List.dropWhile_suffix (l := rest.reverse) (· != '}'))
        simpa using List.reverse_prefix.mpr suffix
      exact closed.isInfix.trans inside
    · split
      · exact List.nil_infix
      · exact inside
  · have path : Text.trim (Text.before " as ".toList tree) <:+: tree :=
      (Text.trim_isInfix _).trans (Text.before_isPrefix _ tree).isInfix
    dsimp only
    split
    · next module dropped =>
      obtain ⟨leads, ends⟩ := Text.prefix_of_dropSuffix? dropped
      -- The star of the import stands at the end of its path.
      have star : ['*'] <:+: "::*".toList := ⟨[':', ':'], [], rfl⟩
      exact ⟨leads.isInfix.trans path, (star.trans ends.isInfix).trans path⟩
    · exact ⟨List.nil_infix, path⟩

private theorem bareItem_isInfix (item : List Char) : bareItem item <:+: item :=
  (Text.trim_isInfix _).trans ((Text.stripEnd_isPrefix _ _).isInfix.trans
    ((List.dropWhile_suffix _).isInfix.trans (Text.trim_isInfix item)))

private theorem itemName_isInfix {tree path item : List Char} (pathInside : path <:+: tree)
    (itemInside : item <:+: tree) :
    itemName path item <:+: tree := by
  unfold itemName
  dsimp only
  split
  · exact (Text.lastSegment_isInfix ':' path).trans pathInside
  · have target :
        Text.trim (Text.afterLast '{' (Text.trim (Text.before " as ".toList item))) <:+: item :=
      (Text.trim_isInfix _).trans ((Text.afterLast_isInfix '{' _).trans
        ((Text.trim_isInfix _).trans (Text.before_isPrefix _ item).isInfix))
    exact (Text.lastSegment_isInfix ':' _).trans (target.trans itemInside)

theorem infix_of_mem_importedNames {tree name : List Char} (member : name ∈ importedNames tree) :
    name <:+: tree := by
  obtain ⟨pathInside, itemsInside⟩ := splitTree_isInfix tree
  obtain ⟨named, _⟩ := List.mem_filter.mp member
  obtain ⟨bare, bareMember, rfl⟩ := List.mem_map.mp named
  obtain ⟨bareItems, _⟩ := List.mem_filter.mp bareMember
  obtain ⟨item, split, rfl⟩ := List.mem_map.mp bareItems
  exact itemName_isInfix pathInside
    ((bareItem_isInfix item).trans ((Text.infix_of_mem_splitOn split).trans itemsInside))

end Rust

end Rules

end Symtab
