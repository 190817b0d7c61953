import Symtab.Proofs.Dedup
import Symtab.Proofs.Lines
import Symtab.Proofs.Scopes
import Symtab.Query

/-!
# What a scan reports

A line only ever adds symbols, all with its own number. Hence a scan reports symbols in the order of
their lines, of which it has read each, and what it has reported of a program stays when the program
goes on.
-/

set_option autoImplicit false

namespace Symtab

/-!
## Symbols of one line
-/

namespace Context

/-- The symbols of one state are those of another and then some that are declared on the line of the
given number. -/
def DeclaresOn (language : Language) (number : Nat) (before after : Context) : Prop :=
  ∃ declarations : List Declaration, after.symbols =
    before.symbols ++ declarations.map (·.toSymbol language number)

variable {language : Language} {number : Nat}

theorem DeclaresOn.refl (context : Context) : DeclaresOn language number context context :=
  ⟨[], by simp⟩

theorem DeclaresOn.trans {first second third : Context}
    (declares : DeclaresOn language number first second)
    (more : DeclaresOn language number second third) : DeclaresOn language number first third := by
  obtain ⟨declarations, found⟩ := declares
  obtain ⟨further, foundFurther⟩ := more
  exact ⟨declarations ++ further, by rw [foundFurther, found, List.map_append, List.append_assoc]⟩

theorem declaresOn_tryMatch (rule : Rule) (line : List Char) (context : Context)
    (found : Pattern.Match) :
    DeclaresOn language number context (rule.tryMatch language number line context found).1 := by
  unfold Rule.tryMatch
  split
  · next effect _ => exact ⟨effect.declarations, rfl⟩
  · exact .refl context

private theorem declaresOn_step (language : Language) (context : Context) (line : Line) :
    DeclaresOn language line.number context (context.step language line) := by
  refine step_preserves (DeclaresOn language line.number context) ?_ ?_ (.refl context)
  · intro rule _ before found _ declared effect _
    exact declared.trans ⟨effect.declarations, rfl⟩
  · -- Closing a body leaves the symbols alone.
    exact fun before declared => declared

/-!
## Symbols of several lines
-/

/-- Symbols that are declared in a language on some of the given lines, in the order of the
lines. -/
structure FoundOn (language : Language) (lines : List Line) (symbols : List Symbol) : Prop where
  language : ∀ symbol ∈ symbols, symbol.language = language
  onLine : ∀ symbol ∈ symbols, ∃ line ∈ lines, symbol.line = line.number
  ordered : (lines.Pairwise fun first second => first.number < second.number) →
    symbols.Pairwise fun first second => first.line ≤ second.line

theorem FoundOn.nil (language : Language) : FoundOn language [] [] where
  language := by simp
  onLine := by simp
  ordered := fun _ => .nil

theorem FoundOn.cons {lines : List Line} {symbols : List Symbol}
    (found : FoundOn language lines symbols) (line : Line) (declarations : List Declaration) :
    FoundOn language (line :: lines)
      (declarations.map (·.toSymbol language line.number) ++ symbols) where
  language := by
    intro symbol member
    rcases List.mem_append.mp member with here | later
    · obtain ⟨declaration, _, rfl⟩ := List.mem_map.mp here
      rfl
    · exact found.language symbol later
  onLine := by
    intro symbol member
    rcases List.mem_append.mp member with here | later
    · obtain ⟨declaration, _, rfl⟩ := List.mem_map.mp here
      exact ⟨line, List.mem_cons_self, rfl⟩
    · obtain ⟨other, below, same⟩ := found.onLine symbol later
      exact ⟨other, List.mem_cons_of_mem line below, same⟩
  ordered := by
    intro increasing
    obtain ⟨first, rest⟩ := List.pairwise_cons.mp increasing
    refine List.pairwise_append.mpr ⟨?_, found.ordered rest, ?_⟩
    · refine List.pairwise_map.mpr (List.pairwise_of_forall ?_)
      intro one another
      exact Nat.le_refl line.number
    · intro symbol here later member
      obtain ⟨declaration, _, rfl⟩ := List.mem_map.mp here
      obtain ⟨other, below, same⟩ := found.onLine later member
      rw [same]
      exact Nat.le_of_lt (first other below)

theorem foldl_step_symbols (language : Language) (lines : List Line) (context : Context) :
    ∃ found, (lines.foldl (step language) context).symbols = context.symbols ++ found ∧
    FoundOn language lines found := by
  induction lines generalizing context with
  | nil => exact ⟨[], by simp, .nil language⟩
  | cons line rest ih =>
    obtain ⟨declarations, here⟩ := declaresOn_step language context line
    obtain ⟨found, later, foundOn⟩ := ih (context.step language line)
    exact ⟨_, by rw [List.foldl_cons, later, here, List.append_assoc],
      foundOn.cons line declarations⟩

theorem run_foundOn (language : Language) (lines : List Line) :
    FoundOn language lines (run language lines).symbols := by
  obtain ⟨found, symbols, foundOn⟩ := foldl_step_symbols language lines initial
  rw [run, symbols]
  exact foundOn

theorem FoundOn.sublist {lines : List Line} {symbols kept : List Symbol}
    (found : FoundOn language lines symbols) (part : kept.Sublist symbols) :
    FoundOn language lines kept where
  language := fun symbol member => found.language symbol (part.subset member)
  onLine := fun symbol member => found.onLine symbol (part.subset member)
  ordered := fun increasing => (found.ordered increasing).sublist part

end Context

private theorem scan_foundOn (language : Language) (source : String) :
    Context.FoundOn language (significantLines language source.toList) (scan language source) :=
  (Context.run_foundOn language _).sublist (dedup_sublist _)

/-!
## The default query
-/

theorem Symbol.compareBy_line_ne_gt {first second : Symbol} (ordered : first.line ≤ second.line) :
    (first.compareBy .line .ascending second != .gt) = true := by
  simpa [Symbol.compareBy, SortOrder.orient, Nat.compare_eq_gt] using ordered

theorem Query.apply_default {symbols : List Symbol}
    (ordered : symbols.Pairwise fun first second => first.line ≤ second.line) :
    Query.apply {} symbols = symbols := by
  have chosen : symbols.filter (Query.chooses {}) = symbols :=
    List.filter_eq_self.mpr fun symbol _ => rfl
  rw [Query.apply, chosen, sortSymbols]
  exact List.mergeSort_of_pairwise (ordered.imp Symbol.compareBy_line_ne_gt)

/-!
## Reports
-/

private theorem pairwise_scan_triple (language : Language) (source : String) :
    (scan language source).Pairwise fun first second =>
      (first.name, first.scope, first.kind) ≠ (second.name, second.scope, second.kind) := by
  refine (pairwise_dedup _).imp ?_
  intro first second different same
  simp only [Prod.mk.injEq] at same
  obtain ⟨name, scope, kind⟩ := same
  exact different (by rw [Symbol.key, Symbol.key, name, scope, kind])

private theorem pairwise_scan_line (language : Language) (source : String) :
    (scan language source).Pairwise fun first second => first.line ≤ second.line :=
  (scan_foundOn language source).ordered (pairwise_significantLines language source.toList)

/-- A scan reports no declaration twice, in the order of the lines, and each from a line of the
program that is neither empty nor a comment, so that the default query has nothing to choose from it
and nothing to put in order. -/
theorem scan_wellFormed (language : Language) (source : String) :
    ((scan language source).Pairwise fun first second =>
        (first.name, first.scope, first.kind) ≠ (second.name, second.scope, second.kind)) ∧
      ((scan language source).Pairwise fun first second => first.line ≤ second.line) ∧
      (∀ symbol ∈ scan language source,
        symbol.language = language ∧ 1 ≤ symbol.line ∧
        symbol.line ≤ (Text.lines source.toList).length ∧
          ∃ raw, (Text.lines source.toList)[symbol.line - 1]? = some raw ∧ Text.trim raw ≠ [] ∧
            language.isComment (Text.trim raw) = false) ∧
      Query.apply {} (scan language source) = scan language source := by
  refine ⟨pairwise_scan_triple language source, pairwise_scan_line language source, ?_,
    Query.apply_default (pairwise_scan_line language source)⟩
  intro symbol member
  have found := scan_foundOn language source
  obtain ⟨line, read, same⟩ := found.onLine symbol member
  rw [same]
  exact ⟨found.language symbol member, of_mem_significantLines read⟩

/-- A declaration under a comment and an empty line, which is repeated further down. -/
theorem repeated_declaration_scanned :
    let source := "// a\n\n  let b = 0;\n  let b = 1;"
    let symbol : Symbol :=
      { name := "b", kind := .variable, scope := "global", line := 3, language := .javascript }
    scan .javascript source = [symbol] ∧
      ∃ raw, (Text.lines source.toList)[symbol.line - 1]? = some raw ∧ Text.trim raw ≠ [] ∧
        Language.javascript.isComment (Text.trim raw) = false := by
  refine ⟨by decide, ?_⟩
  exact ((scan_wellFormed .javascript _).2.2.1 _ (by decide)).2.2.2

/-- Whatever follows a program after a line feed, the report on the program stays as it is, and the
report on the rest comes after it with greater line numbers. -/
theorem scan_append (language : Language) (source more : String) :
    ∃ added, scan language (source ++ "\n" ++ more) = scan language source ++ added ∧
      ∀ symbol ∈ added, (Text.lines source.toList).length < symbol.line := by
  obtain ⟨lines, extended, beyond⟩ := significantLines_append language source.toList more.toList
  obtain ⟨found, symbols, foundOn⟩ :=
    Context.foldl_step_symbols language lines
      (Context.run language (significantLines language source.toList))
  have text : (source ++ "\n" ++ more).toList = source.toList ++ '\n' :: more.toList := by simp
  refine ⟨_, by rw [scan, text, extended, Context.run_append, symbols, dedup_append, ← scan], ?_⟩
  intro symbol member
  obtain ⟨line, read, same⟩ := (foundOn.sublist (dedupAfter_sublist _ found)).onLine symbol member
  rw [same]
  exact beyond line read

/-- The line feed takes a carriage return off the last line; its declaration stays, and only the new
one is added. -/
theorem declaration_appended_after_carriageReturn :
    ∃ added, scan .javascript ("let a\r" ++ "\n" ++ "let a\nlet b") =
      scan .javascript "let a\r" ++ added ∧
      added =
        [{ name := "b", kind := .variable, scope := "global", line := 3, language := .javascript }] ∧
      ∀ symbol ∈ added, (Text.lines "let a\r".toList).length < symbol.line := by
  obtain ⟨added, same, beyond⟩ := scan_append .javascript "let a\r" "let a\nlet b"
  have whole : scan .javascript ("let a\r" ++ "\n" ++ "let a\nlet b") =
      scan .javascript "let a\r" ++
        [{ name := "b", kind := .variable, scope := "global", line := 3, language := .javascript }] := by decide
  exact ⟨added, same, List.append_cancel_left (same.symm.trans whole), beyond⟩

end Symtab
