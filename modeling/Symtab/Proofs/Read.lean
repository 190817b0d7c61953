import Symtab.Proofs.Matching
import Symtab.Scan.Rule

/-!
# Reading a line

Reading a line is trying rules on matches, over and over. What every such trial keeps is kept by the
cascade, by the checks and by both together. What a check brings about on one of its matches is
there in the end, and a line that no rule is about leaves a scan alone.
-/

set_option autoImplicit false

namespace Symtab.Context

section Preservation

variable (property : Context → Prop) {language : Language} {number : Nat} {line : List Char}

private theorem tryLine_preserves {rule : Rule}
    (tried : ∀ context found, rule.pattern.find? line = some found → property context →
      property (rule.tryMatch language number line context found).1)
    {context : Context} (start : property context) :
      property (rule.tryLine language number line context).1 := by
  unfold Rule.tryLine
  split
  · next matched => exact tried context _ matched start
  · exact start

/-- Of the matches that a rule of the cascade has in the line, it is only tried on the one that is
found. -/
theorem cascaded_preserves {rules : List Rule}
    (tried : ∀ rule ∈ rules, ∀ context found, rule.pattern.find? line = some found →
      property context →
      property (rule.tryMatch language number line context found).1)
    {context : Context} (start : property context) :
      property (context.cascaded language number line rules) := by
  induction rules generalizing context with
  | nil => exact start
  | cons rule rest ih =>
    obtain ⟨ruleTried, restTried⟩ := List.forall_mem_cons.mp tried
    have after := tryLine_preserves property ruleTried start
    unfold cascaded
    split
    · next claimed =>
      rw [claimed] at after
      exact after
    · next declined =>
      rw [declined] at after
      exact ih restTried after

private theorem checked_preserves {rule : Rule}
    (tried : ∀ context found, rule.pattern.IsMatch line found → property context →
      property (rule.tryMatch language number line context found).1)
    {found : List Pattern.Match} (areMatches : ∀ place ∈ found, rule.pattern.IsMatch line place)
      {context : Context}
    (start : property context) : property (context.checked language number line rule found) := by
  induction found generalizing context with
  | nil => exact start
  | cons place rest ih =>
    obtain ⟨isMatch, restMatch⟩ := List.forall_mem_cons.mp areMatches
    exact ih restMatch (tried context place isMatch start)

theorem foldl_checked_preserves {checks : List Rule}
    (tried : ∀ rule ∈ checks, ∀ context found, rule.pattern.IsMatch line found → property context →
      property (rule.tryMatch language number line context found).1)
    {context : Context} (start : property context) :
    property (checks.foldl
      (fun context rule => context.checked language number line rule (rule.pattern.findAll line))
        context) := by
  induction checks generalizing context with
  | nil => exact start
  | cons rule rest ih =>
    obtain ⟨ruleTried, restTried⟩ := List.forall_mem_cons.mp tried
    exact ih restTried
      (checked_preserves property ruleTried (fun _ => Pattern.isMatch_of_mem_findAll) start)

theorem read_preserves {table : RuleTable}
    (tried : ∀ rule ∈ table.cascade ++ table.checks, ∀ context found,
      rule.pattern.IsMatch line found → property context →
      property (rule.tryMatch language number line context found).1)
    {context : Context} (start : property context) :
      property (context.read table language number line) := by
  obtain ⟨cascade, checks⟩ := List.forall_mem_append.mp tried
  refine foldl_checked_preserves property checks (cascaded_preserves property ?_ start)
  intro rule member context found matched
  exact cascade rule member context found (Pattern.isMatch_of_find? matched)

/-- What a check brings about on one of its matches, whatever the state, and what every trial keeps,
holds in the end. -/
theorem read_establishes {table : RuleTable}
    (tried : ∀ rule ∈ table.cascade ++ table.checks, ∀ context found,
      rule.pattern.IsMatch line found → property context →
      property (rule.tryMatch language number line context found).1)
    {rule : Rule} (check : rule ∈ table.checks) {place : Pattern.Match}
      (listed : place ∈ rule.pattern.findAll line)
    (established : ∀ context, property (rule.tryMatch language number line context place).1)
      (context : Context) :
    property (context.read table language number line) := by
  obtain ⟨_, checksTried⟩ := List.forall_mem_append.mp tried
  obtain ⟨earlier, later, checks⟩ := List.append_of_mem check
  obtain ⟨above, below, found⟩ := List.append_of_mem listed
  have ruleTried := checksTried rule check
  have laterTried :=
    fun other member => checksTried other
      (by rw [checks]; exact List.mem_append_right _ (.tail rule member))
  have isMatch : ∀ other ∈ below, rule.pattern.IsMatch line other := fun other member =>
    Pattern.isMatch_of_mem_findAll
      (by rw [found]; exact List.mem_append_right _ (.tail place member))
  rw [read, checks, List.foldl_append, List.foldl_cons, found, checked, List.foldl_append,
    List.foldl_cons]
  exact foldl_checked_preserves property laterTried
    (checked_preserves property ruleTried isMatch (established _))

end Preservation

section Unmatched

variable {line : List Char}

theorem cascaded_of_find?_eq_none {rules : List Rule}
    (unmatched : ∀ rule ∈ rules, rule.pattern.find? line = none) (language : Language)
    (number : Nat) (context : Context) :
    context.cascaded language number line rules = context := by
  induction rules with
  | nil => rfl
  | cons rule rest ih =>
    obtain ⟨ruleUnmatched, restUnmatched⟩ := List.forall_mem_cons.mp unmatched
    simp only [cascaded, Rule.tryLine, ruleUnmatched]
    exact ih restUnmatched

private theorem findAll_eq_nil_of_find?_eq_none {pattern : Pattern}
    (unmatched : pattern.find? line = none) :
    pattern.findAll line = [] := by
  rw [Pattern.find?] at unmatched
  simp only [Pattern.findAll, Pattern.findAllFrom, Cursor.start, unmatched]

theorem foldl_checked_of_find?_eq_none {checks : List Rule}
    (unmatched : ∀ rule ∈ checks, rule.pattern.find? line = none) (language : Language)
    (number : Nat) (context : Context) :
    checks.foldl (fun context rule =>
      context.checked language number line rule (rule.pattern.findAll line)) context =
      context := by
  induction checks with
  | nil => rfl
  | cons rule rest ih =>
    obtain ⟨ruleUnmatched, restUnmatched⟩ := List.forall_mem_cons.mp unmatched
    rw [List.foldl_cons, findAll_eq_nil_of_find?_eq_none ruleUnmatched]
    exact ih restUnmatched

theorem read_of_find?_eq_none {table : RuleTable}
    (unmatched : ∀ rule ∈ table.cascade ++ table.checks, rule.pattern.find? line = none)
    (language : Language) (number : Nat) (context : Context) :
    context.read table language number line = context := by
  obtain ⟨cascade, checks⟩ := List.forall_mem_append.mp unmatched
  rw [read, cascaded_of_find?_eq_none cascade, foldl_checked_of_find?_eq_none checks]

end Unmatched

end Symtab.Context
