import Symtab.Proofs.Scan

/-!
# Renumbered lines

No rule asks which line a symbol was found on, so a scan whose lines carry other numbers goes the
same way and finds the same symbols under the other numbers. Nothing is assumed about the numbers:
they need be neither distinct nor increasing.
-/

set_option autoImplicit false

namespace Symtab

def Line.renumber (numbering : Nat → Nat) (line : Line) : Line :=
  { line with number := numbering line.number }

def Symbol.renumber (numbering : Nat → Nat) (symbol : Symbol) : Symbol :=
  { symbol with line := numbering symbol.line }

def Context.renumber (numbering : Nat → Nat) (context : Context) : Context :=
  { context with symbols := context.symbols.map (Symbol.renumber numbering) }

/-!
## Rules
-/

/-- What the rule does with a matching line is the same under any numbering of the symbols found
before. -/
def Rule.IgnoresNumbers (rule : Rule) : Prop :=
  ∀ numbering captures line context,
    rule.effect? captures line (Context.renumber numbering context) =
      rule.effect? captures line context

theorem Language.ignoresNumbers (language : Language) :
    ∀ rule ∈ language.rules.cascade ++ language.rules.checks, rule.IgnoresNumbers := by
  -- No rule looks at the symbols themselves: what it sees of a scan are the open bodies, the names
  -- that are recorded and the group, which a numbering leaves as they are.
  cases language with
  | javascript | python | java | c | cpp | csharp | go | rust =>
    simp only [rules, Rules.JavaScript.table, Rules.Python.table, Rules.Java.table, Rules.C.table,
      Rules.Cpp.table, Rules.CSharp.table, Rules.Go.table, Rules.Rust.table, List.append_nil,
      List.cons_append, List.nil_append, List.forall_mem_cons, List.not_mem_nil, false_imp_iff,
      implies_true, and_true]
    repeat' apply And.intro
    all_goals
      intro numbering captures line context
      rfl

/-!
## One line
-/

theorem Context.apply_renumber (numbering : Nat → Nat) (context : Context) (language : Language)
    (number : Nat) (effect : Effect) :
    (context.renumber numbering).apply language (numbering number) effect =
      (context.apply language number effect).renumber numbering := by
  simp only [apply, renumber, List.map_append, List.map_map]
  rfl

theorem Rule.IgnoresNumbers.tryMatch_renumber {rule : Rule} (ignores : rule.IgnoresNumbers)
    (numbering : Nat → Nat) (language : Language) (number : Nat) (line : List Char)
    (context : Context) (found : Pattern.Match) :
    rule.tryMatch language (numbering number) line (context.renumber numbering) found =
      ((rule.tryMatch language number line context found).1.renumber numbering,
        (rule.tryMatch language number line context found).2) := by
  simp only [tryMatch, ignores numbering]
  cases rule.effect? found.captures line context with
  | none => rfl
  | some effect => simp only [Context.apply_renumber]

theorem Rule.IgnoresNumbers.tryLine_renumber {rule : Rule} (ignores : rule.IgnoresNumbers)
    (numbering : Nat → Nat) (language : Language) (number : Nat) (line : List Char)
    (context : Context) :
    rule.tryLine language (numbering number) line (context.renumber numbering) =
      ((rule.tryLine language number line context).1.renumber numbering,
        (rule.tryLine language number line context).2) := by
  unfold tryLine
  cases rule.pattern.find? line with
  | none => rfl
  | some found => exact ignores.tryMatch_renumber numbering language number line context found

namespace Context

private theorem cascaded_renumber {rules : List Rule} (ignore : ∀ rule ∈ rules, rule.IgnoresNumbers)
    (numbering : Nat → Nat) (language : Language) (number : Nat) (line : List Char)
    (context : Context) :
    (context.renumber numbering).cascaded language (numbering number) line rules =
      (context.cascaded language number line rules).renumber numbering := by
  induction rules generalizing context with
  | nil => rfl
  | cons rule rest ih =>
    obtain ⟨ruleIgnores, restIgnore⟩ := List.forall_mem_cons.mp ignore
    simp only [cascaded, ruleIgnores.tryLine_renumber]
    cases rule.tryLine language number line context with
    | mk next claimed =>
      cases claimed with
      | true => rfl
      | false => exact ih restIgnore next

private theorem checked_renumber {rule : Rule} (ignores : rule.IgnoresNumbers)
    (numbering : Nat → Nat) (language : Language) (number : Nat) (line : List Char)
    (context : Context) (found : List Pattern.Match) :
    (context.renumber numbering).checked language (numbering number) line rule found =
      (context.checked language number line rule found).renumber numbering := by
  induction found generalizing context with
  | nil => rfl
  | cons place rest ih =>
    have first := ignores.tryMatch_renumber numbering language number line context place
    simp only [checked, List.foldl_cons, first] at ih ⊢
    exact ih _

private theorem foldl_checked_renumber {checks : List Rule}
    (ignore : ∀ rule ∈ checks, rule.IgnoresNumbers) (numbering : Nat → Nat) (language : Language)
    (number : Nat) (line : List Char) (context : Context) :
    checks.foldl (fun context rule =>
      context.checked language (numbering number) line rule (rule.pattern.findAll line))
        (context.renumber numbering) =
      (checks.foldl (fun context rule =>
        context.checked language number line rule (rule.pattern.findAll line))
        context).renumber numbering := by
  induction checks generalizing context with
  | nil => rfl
  | cons rule rest ih =>
    obtain ⟨ruleIgnores, restIgnore⟩ := List.forall_mem_cons.mp ignore
    rw [List.foldl_cons, List.foldl_cons, checked_renumber ruleIgnores]
    exact ih restIgnore _

private theorem read_renumber (numbering : Nat → Nat) (language : Language) (number : Nat)
    (line : List Char) (context : Context) :
    (context.renumber numbering).read language.rules language (numbering number) line =
      (context.read language.rules language number line).renumber numbering := by
  obtain ⟨cascade, checks⟩ := List.forall_mem_append.mp language.ignoresNumbers
  rw [read, read, cascaded_renumber cascade, foldl_checked_renumber checks]

theorem step_renumber (numbering : Nat → Nat) (language : Language) (context : Context)
    (line : Line) :
    (context.renumber numbering).step language (line.renumber numbering) =
      (context.step language line).renumber numbering := by
  simp only [step, Line.renumber, read_renumber]
  split
  · rfl
  · rfl

/-!
## All lines
-/

private theorem foldl_step_renumber (numbering : Nat → Nat) (language : Language)
    (lines : List Line) (context : Context) :
    (lines.map (Line.renumber numbering)).foldl (step language) (context.renumber numbering) =
      (lines.foldl (step language) context).renumber numbering := by
  induction lines generalizing context with
  | nil => rfl
  | cons line rest ih =>
    rw [List.map_cons, List.foldl_cons, step_renumber]
    exact ih (context.step language line)

private theorem run_renumber (numbering : Nat → Nat) (language : Language) (lines : List Line) :
    run language (lines.map (Line.renumber numbering)) = (run language lines).renumber numbering :=
  foldl_step_renumber numbering language lines initial

end Context

theorem dedupAfter_renumber (numbering : Nat → Nat) (seen : List Symbol.Key)
    (symbols : List Symbol) :
    dedupAfter seen (symbols.map (Symbol.renumber numbering)) =
      (dedupAfter seen symbols).map (Symbol.renumber numbering) := by
  induction symbols generalizing seen with
  | nil => rfl
  | cons symbol rest ih =>
    -- The number of its line is no part of what identifies a declaration.
    have sameKey : (symbol.renumber numbering).key = symbol.key := rfl
    rw [List.map_cons, dedupAfter, dedupAfter, sameKey]
    split
    · exact ih seen
    · rw [List.map_cons, ih]

/-- Lines with other numbers are reported with the other numbers, and nothing else changes. -/
theorem dedup_run_renumber (numbering : Nat → Nat) (language : Language) (lines : List Line) :
    dedup (Context.run language (lines.map (Line.renumber numbering))).symbols =
      (dedup (Context.run language lines).symbols).map (Symbol.renumber numbering) := by
  rw [Context.run_renumber]
  exact dedupAfter_renumber numbering [] _

end Symtab
