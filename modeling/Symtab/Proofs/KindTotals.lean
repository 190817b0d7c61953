import Mathlib.Algebra.GroupWithZero.Nat
import Mathlib.Data.List.Induction
import Symtab.Proofs.Decoration
import Symtab.Report.Document
import Symtab.Report.Table

/-!
# Numbers of symbols

The numbers of symbols of each kind are kept as a table that is changed one symbol at a time. The
table has the kinds that occur in the order of their first occurrence, each with the number of its
occurrences, so the table of two lists after one another is made of the tables of the lists. The two
forms of a report show the same numbers.
-/

set_option autoImplicit false

namespace Symtab

namespace KindCount

/-- The kinds that a table has an entry for, in order. -/
def kinds (counts : List KindCount) : List Kind :=
  counts.map KindCount.kind

/-- The number that a table has for a kind, zero if it has no entry. -/
def entered (kind : Kind) (counts : List KindCount) : Nat :=
  ((counts.find? fun entry => entry.kind = kind).map KindCount.count).getD 0

/-- Two tables in one: the numbers of a kind that both have are added, and the kinds that only the
second one has come last. -/
def merge (counts more : List KindCount) : List KindCount :=
  (counts.map fun entry => ⟨entry.kind, entry.count + entered entry.kind more⟩) ++
    more.filter fun entry => decide (entry.kind ∉ kinds counts)

/-- The table counts the given kinds: it has an entry for each kind that occurs, with the number of
its occurrences, and the entries are in the order of the first occurrences. -/
structure Tallies (counts : List KindCount) (found : List Kind) : Prop where
  mem_iff : ∀ entry, entry ∈ counts ↔ entry.kind ∈ found ∧ entry.count = found.count entry.kind
  ordered : counts.Pairwise fun first second => found.idxOf first.kind < found.idxOf second.kind

/-!
## Tables
-/

section Entered

variable (kind other : Kind)

private theorem entered_cons (entry : KindCount) (counts : List KindCount) :
    entered kind (entry :: counts) =
      if entry.kind = kind then entry.count else entered kind counts := by
  by_cases same : entry.kind = kind
  · simp [entered, same]
  · simp [entered, same]

private theorem entered_eq_zero {kind : Kind} {counts : List KindCount}
    (absent : kind ∉ kinds counts) : entered kind counts = 0 := by
  have unfound : (counts.find? fun entry => entry.kind = kind) = none := by
    rw [List.find?_eq_none]
    intro entry member
    have different : entry.kind ≠ kind :=
      fun same => absent (List.mem_map.mpr ⟨entry, member, same⟩)
    simpa using different
  rw [entered, unfound]
  rfl

private theorem entered_append (counts more : List KindCount) :
    entered kind (counts ++ more) =
      if kind ∈ kinds counts then entered kind counts else entered kind more := by
  induction counts with
  | nil => rfl
  | cons entry counts ih =>
    rw [List.cons_append, entered_cons, entered_cons, ih]
    grind [kinds]

private theorem entered_filter (keep : Kind → Bool) (counts : List KindCount) :
    entered kind (counts.filter fun entry => keep entry.kind) =
      if keep kind then entered kind counts else 0 := by
  induction counts with
  | nil => simp [entered]
  | cons entry counts ih =>
    rw [List.filter_cons, entered_cons]
    split
    · rw [entered_cons, ih]
      grind
    · rw [ih]
      grind

private theorem entered_map_add (counts more : List KindCount) :
    entered kind (counts.map fun entry => ⟨entry.kind, entry.count + entered entry.kind more⟩) =
      if kind ∈ kinds counts then entered kind counts + entered kind more else 0 := by
  induction counts with
  | nil => rfl
  | cons entry counts ih =>
    rw [List.map_cons, entered_cons, entered_cons, ih]
    grind [kinds]

/-- One more symbol is entered under its kind and nowhere else. -/
theorem entered_add (counts : List KindCount) :
    entered other (add kind counts) = entered other counts + if other = kind then 1 else 0 := by
  induction counts with
  | nil =>
    rw [add, entered_cons]
    simp [entered, eq_comm]
  | cons entry counts ih =>
    rw [add]
    split
    · rw [entered_cons, entered_cons]
      grind
    · rw [entered_cons, entered_cons, ih]
      grind

end Entered

private theorem kinds_add (kind : Kind) (counts : List KindCount) :
    kinds (add kind counts) =
      if kind ∈ kinds counts then kinds counts else kinds counts ++ [kind] := by
  induction counts with
  | nil => rfl
  | cons entry counts ih =>
    rw [add]
    split
    · next same => simp [kinds, same]
    · next different =>
      have below : kinds (entry :: add kind counts) = entry.kind :: kinds (add kind counts) := rfl
      rw [below, ih]
      grind [kinds]

private theorem kinds_merge (counts more : List KindCount) :
    kinds (merge counts more) = kinds counts ++ (kinds more).filter fun kind =>
      decide (kind ∉ kinds counts) := by
  rw [merge, kinds, List.map_append, List.map_map]
  have later : (kinds more).filter (fun kind => decide (kind ∉ kinds counts)) =
      (more.filter fun entry => decide (entry.kind ∉ kinds counts)).map KindCount.kind :=
    List.filter_map
  rw [later]
  rfl

private theorem entered_merge (kind : Kind) (counts more : List KindCount) :
    entered kind (merge counts more) = entered kind counts + entered kind more := by
  have sameKinds :
      kinds (counts.map fun entry => ⟨entry.kind, entry.count + entered entry.kind more⟩) =
        kinds counts := by
    rw [kinds, List.map_map]
    rfl
  rw [merge, entered_append, sameKinds, entered_map_add]
  split
  · rfl
  · next absent =>
    have kept := entered_filter kind (fun kind => decide (kind ∉ kinds counts)) more
    rw [kept, if_pos (by simpa using absent), entered_eq_zero absent, Nat.zero_add]

private theorem mem_iff_entered {counts : List KindCount} (distinct : (kinds counts).Nodup)
    (entry : KindCount) :
    entry ∈ counts ↔ entry.kind ∈ kinds counts ∧ entry.count = entered entry.kind counts := by
  induction counts with
  | nil => simp [kinds]
  | cons first counts ih =>
    obtain ⟨new, distinctRest⟩ := List.nodup_cons.mp distinct
    have below : kinds (first :: counts) = first.kind :: kinds counts := rfl
    rw [List.mem_cons, ih distinctRest, below, List.mem_cons, entered_cons]
    by_cases same : first.kind = entry.kind
    · have notBelow : entry.kind ∉ kinds counts := same ▸ new
      have alike : entry = first ↔ entry.count = first.count := by
        cases entry
        cases first
        simp_all
      simp [same, notBelow, alike]
    · have different : entry ≠ first := fun equal => same (congrArg KindCount.kind equal.symm)
      simp [same, Ne.symm same, different]

/-- A table is determined by its kinds and the numbers that it has for them. -/
theorem eq_of_entered {counts more : List KindCount} (distinct : (kinds counts).Nodup)
    (sameKinds : kinds counts = kinds more)
    (sameNumbers : ∀ kind, entered kind counts = entered kind more) : counts = more := by
  induction counts generalizing more with
  | nil => exact (List.map_eq_nil_iff.mp sameKinds.symm).symm
  | cons entry counts ih =>
    obtain ⟨first, rest, rfl, sameKind, sameRest⟩ := List.map_eq_cons_iff.mp sameKinds.symm
    obtain ⟨new, distinctRest⟩ := List.nodup_cons.mp distinct
    have sameEntry : entry = first := by
      have number := sameNumbers entry.kind
      rw [entered_cons, entered_cons, if_pos rfl, if_pos sameKind] at number
      cases entry
      cases first
      simp_all
    have numbersBelow (kind : Kind) : entered kind counts = entered kind rest := by
      by_cases isFirst : entry.kind = kind
      · have notAbove : kind ∉ kinds rest := by
          rw [kinds, sameRest, ← isFirst]
          exact new
        rw [entered_eq_zero (isFirst ▸ new), entered_eq_zero notAbove]
      · have number := sameNumbers kind
        rwa [entered_cons, entered_cons, if_neg isFirst, if_neg (sameEntry ▸ isFirst)] at number
    rw [sameEntry, ih distinctRest sameRest.symm numbersBelow]

private theorem sum_add (kind : Kind) (counts : List KindCount) :
    ((add kind counts).map KindCount.count).sum = (counts.map KindCount.count).sum + 1 := by
  induction counts with
  | nil => rfl
  | cons entry counts ih =>
    rw [add]
    split
    · simp only [List.map_cons, List.sum_cons]
      omega
    · simp only [List.map_cons, List.sum_cons, ih]
      omega

end KindCount

open KindCount

/-!
## The table of a list
-/

private theorem kindCounts_concat (symbols : List Symbol) (symbol : Symbol) :
    kindCounts (symbols ++ [symbol]) = add symbol.kind (kindCounts symbols) := by
  rw [kindCounts, List.foldl_append]
  rfl

private theorem mem_kinds_kindCounts {symbols : List Symbol} {kind : Kind} :
    kind ∈ kinds (kindCounts symbols) ↔ kind ∈ symbols.map Symbol.kind := by
  induction symbols using List.reverseRecOn with
  | nil => rfl
  | append_singleton symbols symbol ih =>
    rw [kindCounts_concat, kinds_add]
    grind

private theorem entered_kindCounts (kind : Kind) (symbols : List Symbol) :
    entered kind (kindCounts symbols) = (symbols.map Symbol.kind).count kind := by
  induction symbols using List.reverseRecOn with
  | nil => rfl
  | append_singleton symbols symbol ih =>
    rw [kindCounts_concat, entered_add, ih, List.map_append, List.count_append, List.map_singleton,
      List.count_singleton]
    simp only [beq_iff_eq, eq_comm (a := kind)]

private theorem pairwise_kinds_kindCounts (symbols : List Symbol) :
    (kinds (kindCounts symbols)).Pairwise fun first second =>
      (symbols.map Symbol.kind).idxOf first < (symbols.map Symbol.kind).idxOf second := by
  induction symbols using List.reverseRecOn with
  | nil => exact .nil
  | append_singleton symbols symbol ih =>
    have kept : (kinds (kindCounts symbols)).Pairwise fun first second =>
        ((symbols ++ [symbol]).map Symbol.kind).idxOf first <
          ((symbols ++ [symbol]).map Symbol.kind).idxOf second := by
      refine ih.imp_of_mem fun firstMember secondMember before => ?_
      rw [List.map_append, List.idxOf_append, List.idxOf_append,
        if_pos (mem_kinds_kindCounts.mp firstMember), if_pos (mem_kinds_kindCounts.mp secondMember)]
      exact before
    rw [kindCounts_concat, kinds_add]
    split
    · exact kept
    · next new =>
      -- A kind that is new stands behind all others.
      refine List.pairwise_append.mpr
        ⟨kept, List.pairwise_singleton _ _, fun first member second last => ?_⟩
      rw [List.mem_singleton.mp last, List.map_append, List.idxOf_append, List.idxOf_append,
        if_pos (mem_kinds_kindCounts.mp member), if_neg (mt mem_kinds_kindCounts.mpr new)]
      exact Nat.lt_add_left _ (List.idxOf_lt_length_iff.mpr (mem_kinds_kindCounts.mp member))

private theorem nodup_kinds_kindCounts (symbols : List Symbol) :
    (kinds (kindCounts symbols)).Nodup :=
  (pairwise_kinds_kindCounts symbols).imp fun before same => by
    rw [same] at before
    exact Nat.lt_irrefl _ before

private theorem tallies_kindCounts (symbols : List Symbol) :
    Tallies (kindCounts symbols) (symbols.map Symbol.kind) where
  mem_iff entry := by
    rw [mem_iff_entered (nodup_kinds_kindCounts symbols), mem_kinds_kindCounts, entered_kindCounts]
  ordered := by
    have ordered := pairwise_kinds_kindCounts symbols
    rwa [kinds, List.pairwise_map] at ordered

private theorem kinds_kindCounts_append (symbols more : List Symbol) :
    kinds (kindCounts (symbols ++ more)) =
      kinds (kindCounts symbols) ++ (kinds (kindCounts more)).filter fun kind =>
        decide (kind ∉ kinds (kindCounts symbols)) := by
  induction more using List.reverseRecOn with
  | nil =>
    rw [List.append_nil]
    exact (List.append_nil _).symm
  | append_singleton more symbol ih =>
    rw [← List.append_assoc, kindCounts_concat, kinds_add, kindCounts_concat, kinds_add, ih]
    grind

private theorem kindCounts_append (symbols more : List Symbol) :
    kindCounts (symbols ++ more) = merge (kindCounts symbols) (kindCounts more) := by
  refine eq_of_entered (nodup_kinds_kindCounts _) ?_ fun kind => ?_
  · rw [kinds_merge, kinds_kindCounts_append]
  · rw [entered_merge, entered_kindCounts, entered_kindCounts, entered_kindCounts, List.map_append,
      List.count_append]

private theorem sum_kindCounts (symbols : List Symbol) :
    ((kindCounts symbols).map KindCount.count).sum = symbols.length := by
  induction symbols using List.reverseRecOn with
  | nil => rfl
  | append_singleton symbols symbol ih =>
    rw [kindCounts_concat, sum_add, ih, List.length_append, List.length_singleton]

/-!
## Files
-/

/-- The table of the symbols of some files is made of their tables, one after the other. -/
theorem kindCounts_allSymbols (files : List ScannedFile) :
    kindCounts (allSymbols files) =
      files.foldl (fun counts file => merge counts (kindCounts file.symbols)) [] := by
  induction files using List.reverseRecOn with
  | nil => rfl
  | append_singleton files file ih =>
    have symbols : allSymbols (files ++ [file]) = allSymbols files ++ file.symbols := by
      simp [allSymbols]
    rw [List.foldl_append, ← ih, symbols, kindCounts_append]
    rfl

/-!
## The text of a report
-/

/-- A text between the codes of a style on a terminal with colours, and as it is on another one. -/
def inCode (colored : Bool) (code : Nat) (text : String) : String :=
  if colored then "\x1b[" ++ Nat.repr code ++ "m" ++ text ++ "\x1b[0m" else text

/-- The line of a summary about a kind. -/
def KindCount.line (colored : Bool) (entry : KindCount) : String :=
  let label := String.ofList (entry.kind.label.toList.rightpad 14 ' ')
  let count := String.ofList ((Nat.repr entry.count).toList.leftpad 5 ' ')
  "    " ++ inCode colored entry.kind.color.code label ++ " " ++ count ++ "\n"

/-- The summary of a table: a title, a line for each entry and an empty line. -/
def KindCount.summaryText (colored : Bool) (counts : List KindCount) : String :=
  "  " ++ inCode colored 1 "Summary:" ++ "\n" ++ String.join (counts.map (line colored)) ++ "\n"

/-- The closing line of a report, with its numbers. -/
def Document.footerText (colored : Bool) (document : Document) : String :=
  let totals := Nat.repr document.totalSymbols ++ " symbols in " ++
    Nat.repr document.filesScanned ++ " file" ++ if document.filesScanned = 1 then "" else "s"
  "  " ++ inCode colored 2 totals ++ "\n"

theorem Cell.render_inCode {cell : Cell} (plain : cell.Plain) {code : Nat}
    (single : cell.style.codes = [code]) (colored : Bool) :
    cell.render colored =
      (inCode colored code (String.ofList
        (cell.alignment.pad cell.width cell.text.toList))).toList := by
  have opening : cell.style.opening = ("\x1b[" ++ Nat.repr code ++ "m").toList := by
    simp [Style.opening, single, Nat.toList_repr]
  cases colored with
  | false => rw [plain.render_eq, inCode]; simp
  | true => rw [plain.render_eq, inCode, opening, single]; simp [Style.reset]

namespace Table

private theorem render_plain (colored : Bool) (text : String) :
    (plain text).render colored = text.toList := by
  simp [Cell.render, plain, Style.codes, Alignment.pad, List.rightpad]

private theorem render_styled {text : String} (free : EscapeFree text) {style : Style} {code : Nat}
    (single : style.codes = [code]) (colored : Bool) :
    (styled text style).render colored = (inCode colored code text).toList := by
  have unpadded : Alignment.left.pad 0 text.toList = text.toList := by
    simp [Alignment.pad, List.rightpad]
  have isPlain : (styled text style).Plain := free
  rw [Cell.render_inCode isPlain single, styled, unpadded, String.ofList_toList]

private theorem renderRow_countRow (colored : Bool) (entry : KindCount) :
    renderRow colored (countRow entry) = (entry.line colored).toList := by
  have label : Cell.Plain ⟨entry.kind.label, { color := some entry.kind.color }, .left, 14⟩ :=
    entry.kind.escapeFree_label
  have count : Cell.render colored ⟨Nat.repr entry.count, {}, .right, 5⟩ =
      (Nat.repr entry.count).toList.leftpad 5 ' ' := by
    simp [Cell.render, Style.codes, Alignment.pad]
  rw [renderRow, countRow, KindCount.line]
  simp only [List.flatMap_cons, List.flatMap_nil, render_plain, Cell.render_inCode label rfl, count,
    Alignment.pad, String.toList_append, String.toList_ofList]
  simp

private theorem flatMap_renderRow_summary (colored : Bool) (counts : List KindCount) :
    (summary counts).flatMap (renderRow colored) =
      (KindCount.summaryText colored counts).toList := by
  have lines : (counts.map countRow).flatMap (renderRow colored) =
      (String.join (counts.map (KindCount.line colored))).toList := by
    rw [String.toList_join, List.flatMap_map, List.flatMap_map]
    simp only [renderRow_countRow]
  have title : (styled "Summary:" { bold := true }).render colored =
      (inCode colored 1 "Summary:").toList := render_styled (by decide) rfl colored
  rw [summary, List.cons_append, List.flatMap_cons, List.flatMap_append, lines,
    KindCount.summaryText]
  simp only [renderRow, emptyRow, List.flatMap_cons, List.flatMap_nil, render_plain, title,
    String.toList_append, List.append_assoc, List.append_nil, List.nil_append]
  rfl

private theorem renderRow_footer (colored : Bool) (files : List ScannedFile) (withCounts : Bool) :
    renderRow colored (footer files) =
      ((Document.ofFiles files withCounts).footerText colored).toList := by
  let totals := Nat.repr (totalSymbols files) ++ " symbols in " ++ Nat.repr files.length ++
    " file" ++ if files.length = 1 then "" else "s"
  have free : EscapeFree totals := escapeFree_totals (totalSymbols files) files.length
  have cells : (footer files).cells = [plain "  ", styled totals { dimmed := true }] := rfl
  have closing : (Document.ofFiles files withCounts).footerText colored =
      "  " ++ inCode colored 2 totals ++ "\n" := by
    dsimp only [totals]
    rw [totalSymbols_eq_length]
    rfl
  rw [renderRow, cells, List.flatMap_cons, List.flatMap_singleton, render_plain,
    render_styled free rfl, closing, String.toList_append, String.toList_append]
  rfl

/-- The summary stands in the text exactly where counts are asked for and there are symbols. -/
theorem summary_text (colored : Bool) (files : List ScannedFile) (withCounts : Bool) :
    let document := Document.ofFiles files withCounts
    String.ofList ((if withCounts && totalSymbols files > 0 then
        summary (kindCounts (allSymbols files)) else []).flatMap (renderRow colored)) =
      if withCounts ∧ 0 < document.totalSymbols then
        KindCount.summaryText colored (document.counts.getD [])
      else "" := by
  intro document
  have sameTotal : document.totalSymbols = totalSymbols files := (totalSymbols_eq_length files).symm
  by_cases shown : withCounts = true ∧ 0 < totalSymbols files
  · obtain ⟨asked, found⟩ := shown
    have counts : document.counts = some (kindCounts (allSymbols files)) := if_pos asked
    rw [if_pos (by simp [asked, found]), if_pos ⟨asked, sameTotal ▸ found⟩, counts,
      flatMap_renderRow_summary, String.ofList_toList, Option.getD_some]
  · rw [if_neg (by simpa using shown), if_neg (by simpa [sameTotal] using shown)]
    rfl

end Table

/-- The table of a list of symbols counts its kinds exactly, and the table of a report is made of
those of the files in their order. Its numbers add up to the number of symbols, which is the sum
over the files. The text of the report for readers ends in the same numbers: a summary with a line
for each entry, where counts are asked for and there are symbols, and the totals. -/
theorem report_kind_counts (files : List ScannedFile) (withCounts : Bool) :
    let document := Document.ofFiles files withCounts
    (∀ symbols : List Symbol, Tallies (kindCounts symbols) (symbols.map Symbol.kind)) ∧
    document.counts =
      (if withCounts then
        some (files.foldl (fun counts file => merge counts (kindCounts file.symbols)) [])
      else none) ∧
    document.counts.map (fun counts => (counts.map KindCount.count).sum) =
      (if withCounts then some document.totalSymbols else none) ∧
    document.totalSymbols = (files.map (·.symbols.length)).sum ∧
    document.filesScanned = files.length ∧
    ∀ colored, Table.render colored files withCounts =
      String.ofList ((Table.heading ++ files.flatMap Table.fileSection).flatMap
        (Table.renderRow colored)) ++
      (if withCounts ∧ 0 < document.totalSymbols then
        KindCount.summaryText colored (document.counts.getD [])
      else "") ++
      document.footerText colored := by
  refine ⟨tallies_kindCounts, ?counts, ?sum, ?total, rfl, fun colored => ?text⟩
  case counts => rw [Document.ofFiles, kindCounts_allSymbols]
  case sum =>
    cases withCounts with
    | false => rfl
    | true => exact congrArg some (sum_kindCounts (allSymbols files))
  case total => exact List.length_flatMap
  case text =>
    rw [Table.render, Table.rows, List.flatMap_append, List.flatMap_append,
      List.flatMap_singleton, Table.renderRow_footer colored files withCounts,
      String.ofList_append, String.ofList_append, String.ofList_toList, Table.summary_text]

end Symtab
