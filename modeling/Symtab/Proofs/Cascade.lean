import Symtab.Proofs.RuleTables

/-!
# The first rule that claims a line

A cascade tries its rules one after the other, each in the state that the ones before it left. As a
rule that leaves a line to others leaves the state alone too, the order of the rules only matters
for which of them is the first to claim the line: the cascade does what that rule would do alone.
-/

set_option autoImplicit false

namespace Symtab

namespace Context

private theorem apply_declined (context : Context) (language : Language) (number : Nat) :
    context.apply language number { claims := false } = context := by
  simp [apply, GroupChange.after]

end Context

namespace Rule

/-- The two ways in which trying an orderly rule on a match can end. -/
theorem Orderly.tryMatch_cases {rule : Rule} (orderly : rule.Orderly) (language : Language)
    (number : Nat) (line : List Char) (context : Context) (found : Pattern.Match) :
    rule.tryMatch language number line context found = (context, false) ∨
      ∃ effect : Effect, effect.Orderly ∧
        rule.tryMatch language number line context found =
          (context.apply language number effect, true) := by
  cases outcome : rule.effect? found.captures line context with
  | none => exact .inl (by simp only [tryMatch, outcome])
  | some effect =>
    have effectOrderly := orderly found.captures line context effect outcome
    cases claims : effect.claims with
    | false =>
      have empty := effectOrderly.declinesCleanly claims
      subst empty
      exact .inl (by simp only [tryMatch, outcome, Context.apply_declined])
    | true => exact .inr ⟨effect, effectOrderly, by simp only [tryMatch, outcome, claims]⟩

theorem Orderly.tryMatch_of_declined {rule : Rule} (orderly : rule.Orderly) {language : Language}
    {number : Nat} {line : List Char} {context : Context} {found : Pattern.Match}
    (declined : (rule.tryMatch language number line context found).2 = false) :
    (rule.tryMatch language number line context found).1 = context := by
  rcases orderly.tryMatch_cases language number line context
    found with unchanged | ⟨effect, _, claimed⟩
  · rw [unchanged]
  · rw [claimed] at declined
    cases declined

/-- The two ways in which trying an orderly rule on a line can end. -/
theorem Orderly.tryLine_cases {rule : Rule} (orderly : rule.Orderly) (language : Language)
    (number : Nat) (line : List Char) (context : Context) :
    rule.tryLine language number line context = (context, false) ∨
      ∃ effect : Effect, effect.Orderly ∧
        rule.tryLine language number line context =
          (context.apply language number effect, true) := by
  cases found : rule.pattern.find? line with
  | none => exact .inl (by simp only [tryLine, found])
  | some place =>
    simp only [tryLine, found]
    exact orderly.tryMatch_cases language number line context place

end Rule

namespace Context

/-- The first of some rules that claims a line, where each is tried alone in the same state. -/
def firstClaiming? (language : Language) (number : Nat) (line : List Char) (context : Context)
    (rules : List Rule) :
    Option Rule :=
  rules.find? fun rule => (rule.tryLine language number line context).2

/-- The state after the first rule that claims a line was tried alone; the given state if no rule
claims the line. -/
def afterFirstClaiming (language : Language) (number : Nat) (line : List Char) (context : Context)
    (rules : List Rule) :
    Context :=
  match firstClaiming? language number line context rules with
  | some rule => (rule.tryLine language number line context).1
  | none => context

theorem cascaded_eq_afterFirstClaiming {rules : List Rule} (orderly : ∀ rule ∈ rules, rule.Orderly)
    (language : Language) (number : Nat) (line : List Char) (context : Context) :
    context.cascaded language number line rules =
      context.afterFirstClaiming language number line rules := by
  induction rules with
  | nil => rfl
  | cons rule rest ih =>
    obtain ⟨ruleOrderly, restOrderly⟩ := List.forall_mem_cons.mp orderly
    rcases ruleOrderly.tryLine_cases language number line
      context with declined | ⟨effect, _, claimed⟩
    · -- The rules after this one find the state as it was at the start of the line.
      simp only [cascaded, declined, ih restOrderly]
      simp only [afterFirstClaiming, firstClaiming?, List.find?_cons, declined]
    · simp only [cascaded, claimed, afterFirstClaiming, firstClaiming?, List.find?_cons]

/-- The cascade of a language does what its first claiming rule does alone at the start of the line,
or else nothing; and no rule of the language, in the cascade or among the checks, touches the state
of a scan whose line it does not claim. -/
theorem cascade_first_claim_alone (language : Language) (context : Context) (number : Nat)
    (line : List Char) :
    context.cascaded language number line language.rules.cascade =
        context.afterFirstClaiming language number line language.rules.cascade ∧
      ∀ rule, rule ∈ language.rules.cascade ∨ rule ∈ language.rules.checks →
      ∀ found : Pattern.Match,
        (rule.tryMatch language number line context found).2 = false →
          (rule.tryMatch language number line context found).1 = context := by
  constructor
  · exact cascaded_eq_afterFirstClaiming language.cascade_orderly language number line context
  · intro rule member found declined
    exact (language.rules_orderly member).tryMatch_of_declined declined

/-- An import for its effects alone has the shape of an import, names nothing and is declined. -/
theorem bare_import_declined :
    let line := "import \"a\"".toList
    let found : Pattern.Match := ⟨Cursor.start line, ⟨" tropmi".toList, "\"a\"".toList⟩, []⟩
    Rules.JavaScript.imports.pattern.find? line = some found ∧
      (Rules.JavaScript.imports.tryMatch .javascript 1 line initial found).2 = false ∧
      (Rules.JavaScript.imports.tryMatch .javascript 1 line initial found).1 = initial := by
  refine ⟨by decide, by decide, ?_⟩
  exact (cascade_first_claim_alone .javascript initial 1 _).2 Rules.JavaScript.imports
    (.inl (by simp [Language.rules, Rules.JavaScript.table])) _ (by decide)

end Context

end Symtab
