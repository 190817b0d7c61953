import Mathlib.Data.List.Induction
import Symtab.Proofs.Cascade
import Symtab.Proofs.Read
import Symtab.Scan.Basic

/-!
# Open bodies

What one line of a program does to the open bodies, and what that makes of them over a whole scan. A
line that is just a closing brace closes one body, any other line opens at most one. The floor stays
where it is and nothing else is like it.
-/

set_option autoImplicit false

namespace Symtab

namespace ScopeStack

private theorem entries_pop (stack : ScopeStack) :
    stack.pop.entries = if stack.depth = 1 then stack.entries else stack.entries.dropLast := by
  cases stack with
  | mk opened =>
    cases opened with
    | nil => rfl
    | cons scope rest => simp [pop, entries, depth, List.dropLast_cons_of_ne_nil]

/-- One stack is another with at most one body more on top, which is not the floor. -/
def OpensAtMostOne (before after : ScopeStack) : Prop :=
  after = before ∨ ∃ scope : Scope, scope.kind ≠ .root ∧ after = before.push scope

/-- No body on top of the floor is a floor itself. -/
def OneFloor (stack : ScopeStack) : Prop :=
  ∀ scope ∈ stack.opened, scope.kind ≠ .root

private theorem oneFloor_empty : empty.OneFloor := by
  intro scope member
  cases member

theorem OneFloor.pop {stack : ScopeStack} (floor : stack.OneFloor) : stack.pop.OneFloor := by
  intro scope member
  exact floor scope (List.mem_of_mem_tail member)

theorem OneFloor.opensAtMostOne {before after : ScopeStack} (floor : before.OneFloor)
    (opens : OpensAtMostOne before after) : after.OneFloor := by
  rcases opens with rfl | ⟨scope, notFloor, rfl⟩
  · exact floor
  · intro other member
    rcases List.mem_cons.mp member with rfl | below
    · exact notFloor
    · exact floor other below

theorem OneFloor.eq_zero_of_kind {stack : ScopeStack} (floor : stack.OneFloor) {position : Nat}
    {scope : Scope} (stands : stack.entries[position]? = some scope) (kind : scope.kind = .root) :
    position = 0 := by
  cases position with
  | zero => rfl
  | succ position =>
    rw [entries, List.getElem?_cons_succ] at stands
    have member := List.mem_reverse.mp (List.mem_of_getElem? stands)
    exact absurd kind (floor scope member)

private theorem depth_pop_le (stack : ScopeStack) : stack.pop.depth ≤ stack.depth := by
  simp only [depth, pop, List.length_tail]
  omega

theorem OpensAtMostOne.depth_le {before after : ScopeStack} (opens : OpensAtMostOne before after) :
    after.depth ≤ before.depth + 1 := by
  rcases opens with rfl | ⟨scope, _, rfl⟩
  · exact Nat.le_succ _
  · exact Nat.le_refl _

end ScopeStack

/-!
## One line
-/

theorem Effect.Orderly.opensAtMostOne {effect : Effect} (orderly : effect.Orderly)
    (context : Context) (language : Language) (number : Nat) :
    ScopeStack.OpensAtMostOne context.scopes (context.apply language number effect).scopes := by
  have short := orderly.opensOne
  have noFloor := orderly.opensNoFloor
  rw [Context.apply]
  cases opens : effect.opens with
  | nil => exact .inl rfl
  | cons scope rest =>
    rw [opens] at short noFloor
    have alone : rest = [] := List.eq_nil_of_length_eq_zero (by simpa using short)
    subst alone
    exact .inr ⟨scope, noFloor scope List.mem_cons_self, rfl⟩

namespace Context

private theorem cascaded_opensAtMostOne {rules : List Rule} (orderly : ∀ rule ∈ rules, rule.Orderly)
    (language : Language) (number : Nat) (line : List Char) (context : Context) :
    ScopeStack.OpensAtMostOne context.scopes
      (context.cascaded language number line rules).scopes := by
  rw [cascaded_eq_afterFirstClaiming orderly, afterFirstClaiming]
  cases first : firstClaiming? language number line context rules with
  | none => exact .inl rfl
  | some rule =>
    have ruleOrderly := orderly rule (List.mem_of_find?_eq_some first)
    rcases ruleOrderly.tryLine_cases language number line
      context with declined | ⟨effect, effectOrderly, claimed⟩
    · exact .inl (by simp only [declined])
    · simp only [claimed]
      exact effectOrderly.opensAtMostOne context language number

end Context

theorem Rule.OnlyDeclares.tryMatch_scopes {rule : Rule} (onlyDeclares : rule.OnlyDeclares)
    (language : Language) (number : Nat) (line : List Char) (context : Context)
    (found : Pattern.Match) :
    (rule.tryMatch language number line context found).1.scopes = context.scopes := by
  cases outcome : rule.effect? found.captures line context with
  | none => simp only [tryMatch, outcome]
  | some effect =>
    obtain ⟨declarations, rfl⟩ := onlyDeclares found.captures line context effect outcome
    simp only [tryMatch, outcome]
    rfl

namespace Context

private theorem read_opensAtMostOne (language : Language) (context : Context) (number : Nat)
    (line : List Char) :
    ScopeStack.OpensAtMostOne context.scopes
      (context.read language.rules language number line).scopes := by
  -- After the cascade has opened what it opens, the checks find that stack and leave it.
  refine foldl_checked_preserves
    (fun after => ScopeStack.OpensAtMostOne context.scopes after.scopes) ?_
    (cascaded_opensAtMostOne language.cascade_orderly language number line context)
  intro rule member before found _ opened
  rw [(language.checks_onlyDeclare rule member).tryMatch_scopes]
  exact opened

private theorem read_closingBrace (language : Language) (context : Context) (number : Nat) :
    context.read language.rules language number ['}'] = context :=
  read_of_find?_eq_none language.find?_closingBrace language number context

theorem step_closingBrace (language : Language) (context : Context) (number : Nat) :
    context.step language ⟨number, ['}']⟩ = context.close := by
  simp only [step, read_closingBrace, if_true]

private theorem step_opensAtMostOne (language : Language) (context : Context) {line : Line}
    (other : line.text ≠ ['}']) :
    ScopeStack.OpensAtMostOne context.scopes (context.step language line).scopes := by
  simp only [step, if_neg other]
  exact read_opensAtMostOne language context line.number line.text

/-- What reading a line may do to a scan as far as the open bodies are concerned: a closing brace
alone on the line takes the topmost entry away, unless that is the floor, and does nothing else; any
other line may put one entry on top. -/
structure ScopeStep (line : List Char) (before after : Context) : Prop where
  closing : line = ['}'] →
    after.symbols = before.symbols ∧ after.names = before.names ∧ after.group = before.group ∧
      after.scopes.entries =
        if before.scopes.depth = 1 then before.scopes.entries else before.scopes.entries.dropLast
  other : line ≠ ['}'] →
    after.scopes.entries = before.scopes.entries ∨
      ∃ scope : Scope, scope.kind ≠ .root ∧ after.scopes.entries = before.scopes.entries ++ [scope]

theorem scopeStep (language : Language) (context : Context) (line : Line) :
    ScopeStep line.text context (context.step language line) where
  closing := by
    intro closes
    obtain ⟨number, text⟩ := line
    subst closes
    rw [step_closingBrace]
    exact ⟨rfl, rfl, rfl, context.scopes.entries_pop⟩
  other := by
    intro other
    rcases step_opensAtMostOne language context other with same | ⟨scope, notFloor, pushed⟩
    · exact .inl (by rw [same])
    · exact .inr ⟨scope, notFloor, by rw [pushed, ScopeStack.entries_push]⟩

/-- What the effect of every rule on a line keeps, and closing a body too, is kept by the line. -/
theorem step_preserves (property : Context → Prop) {language : Language} {line : Line}
    (applied : ∀ rule ∈ language.rules.cascade ++ language.rules.checks, ∀ context found,
      rule.pattern.IsMatch line.text found → property context →
        Yields (fun effect => property (context.apply language line.number effect))
          (rule.effect? found.captures line.text context))
    (closed : ∀ context, property context → property context.close) {context : Context}
      (start : property context) :
    property (context.step language line) := by
  have read : property (context.read language.rules language line.number line.text) := by
    refine read_preserves property ?_ start
    intro rule member before found isMatch holds
    unfold Rule.tryMatch
    split
    · next effect outcome => exact applied rule member before found isMatch holds effect outcome
    · exact holds
  unfold step
  split
  · exact closed _ read
  · exact read

/-!
## All lines
-/

theorem run_append (language : Language) (lines more : List Line) :
    run language (lines ++ more) = more.foldl (step language) (run language lines) := by
  simp only [run, List.foldl_append]

/-- What holds at the start and is kept by every line, given the lines before it, holds after all
lines. -/
theorem run_induction (property : List Line → Context → Prop) (language : Language)
    (start : property [] initial)
    (step : ∀ lines line, property lines (run language lines) →
      property (lines ++ [line]) ((run language lines).step language line))
    (lines : List Line) : property lines (run language lines) := by
  induction lines using List.reverseRecOn with
  | nil => exact start
  | append_singleton lines line ih =>
    rw [run_append]
    exact step lines line ih

/-- The names that are recorded are those of the symbols. -/
def NamesRecorded (context : Context) : Prop :=
  context.names = context.symbols.map (·.name)

theorem NamesRecorded.apply {context : Context} (recorded : context.NamesRecorded)
    (language : Language) (number : Nat) (effect : Effect) :
    (context.apply language number effect).NamesRecorded := by
  rw [NamesRecorded, Context.apply, recorded, List.map_append, Declaration.map_name_toSymbol]

theorem run_namesRecorded (language : Language) (lines : List Line) :
    (run language lines).NamesRecorded := by
  refine run_induction (fun _ context => context.NamesRecorded) language rfl ?_ lines
  intro _ line recorded
  refine step_preserves NamesRecorded ?_ (fun _ recorded => recorded) recorded
  intro rule _ context found _ recorded effect _
  exact recorded.apply language line.number effect

/-- Every symbol was declared on one of the lines, by a declaration that has the property there. -/
def DeclaredOn (property : List Char → Declaration → Prop) (language : Language) (lines : List Line)
    (context : Context) : Prop :=
  ∀ symbol ∈ context.symbols, ∃ line ∈ lines, ∃ declaration,
    property line.text declaration ∧ symbol = declaration.toSymbol language line.number

theorem DeclaredOn.apply {property : List Char → Declaration → Prop} {language : Language}
    {lines : List Line} {context : Context} (declared : DeclaredOn property language lines context)
    {line : Line} (read : line ∈ lines) {effect : Effect}
    (holds : ∀ declaration ∈ effect.declarations, property line.text declaration) :
    DeclaredOn property language lines (context.apply language line.number effect) := by
  intro symbol member
  rcases List.mem_append.mp member with before | here
  · exact declared symbol before
  · obtain ⟨declaration, listed, rfl⟩ := List.mem_map.mp here
    exact ⟨line, read, declaration, holds declaration listed, rfl⟩

/-- What every declaration of every rule has on its line, every symbol of a scan has on the line
that it is reported for. -/
theorem run_declaredOn {property : List Char → Declaration → Prop} {language : Language}
    (holds : ∀ rule ∈ language.rules.cascade ++ language.rules.checks, ∀ line context found,
      rule.pattern.IsMatch line found →
      Yields (fun effect => ∀ declaration ∈ effect.declarations, property line declaration)
        (rule.effect? found.captures line context))
    (lines : List Line) : DeclaredOn property language lines (run language lines) := by
  refine run_induction (DeclaredOn property language) language (by simp [DeclaredOn, initial])
    (fun lines line declared => ?_) lines
  have earlier : DeclaredOn property language (lines ++ [line]) (run language lines) := by
    intro symbol member
    obtain ⟨other, read, shown⟩ := declared symbol member
    exact ⟨other, List.mem_append_left _ read, shown⟩
  refine step_preserves (DeclaredOn property language (lines ++ [line])) ?_
    (fun _ known => known) earlier
  intro rule listed context found isMatch known
  exact (holds rule listed line.text context found isMatch).imp fun _ => known.apply (by simp)

private theorem step_scopes_cases (language : Language) (context : Context) (line : Line) :
    (context.step language line).scopes = context.scopes.pop ∨
      ScopeStack.OpensAtMostOne context.scopes (context.step language line).scopes := by
  by_cases closes : line.text = ['}']
  · obtain ⟨number, text⟩ := line
    subst closes
    exact .inl (by rw [step_closingBrace]; rfl)
  · exact .inr (step_opensAtMostOne language context closes)

private theorem oneFloor_step {context : Context} (floor : context.scopes.OneFloor)
    (language : Language) (line : Line) :
    (context.step language line).scopes.OneFloor := by
  rcases step_scopes_cases language context line with closed | opens
  · rw [closed]
    exact floor.pop
  · exact floor.opensAtMostOne opens

private theorem depth_step_le (language : Language) (context : Context) (line : Line) :
    (context.step language line).scopes.depth ≤ context.scopes.depth + 1 := by
  rcases step_scopes_cases language context line with closed | opens
  · rw [closed]
    exact Nat.le_succ_of_le context.scopes.depth_pop_le
  · exact opens.depth_le

private theorem oneFloor_run (language : Language) (lines : List Line) :
    (run language lines).scopes.OneFloor :=
  run_induction (fun _ context => context.scopes.OneFloor) language ScopeStack.oneFloor_empty
    (fun _ line floor => oneFloor_step floor language line) lines

private theorem depth_run_le (language : Language) (lines : List Line) :
    (run language lines).scopes.depth ≤ lines.length + 1 := by
  refine run_induction (fun lines context => context.scopes.depth ≤ lines.length + 1) language
    (Nat.le_refl 1) ?_ lines
  intro lines line ih
  have grown := depth_step_le language (run language lines) line
  rw [List.length_append]
  exact Nat.le_trans grown (Nat.succ_le_succ ih)

/-- A scan is a stack machine over a floor. From any state a line acts on the open bodies as
`ScopeStep` says, so that after any lines the floor is the lowest entry and the only one of its
kind, and there are no more bodies above it than lines. -/
theorem scope_stack_machine (language : Language) :
    (∀ (context : Context) (line : Line),
      ScopeStep line.text context (context.step language line)) ∧
      ∀ lines : List Line,
        (run language lines).scopes.entries[0]? = some ⟨"global", .root⟩ ∧
          (∀ (position : Nat) (scope : Scope), (run language lines).scopes.entries[position]? =
            some scope →
            scope.kind = .root → position = 0) ∧
          1 ≤ (run language lines).scopes.depth ∧
          (run language lines).scopes.depth ≤ lines.length + 1 := by
  refine ⟨scopeStep language, ?_⟩
  intro lines
  refine ⟨rfl, ?_, ?_, depth_run_le language lines⟩
  · intro position scope stands kind
    exact (oneFloor_run language lines).eq_zero_of_kind stands kind
  · exact Nat.succ_le_succ (Nat.zero_le _)

/-- The body of a method is opened inside that of its class, as deep as two lines can go, and closed
again. -/
theorem method_body_closed :
    let lines := significantLines .javascript "class A \x7b\nf() \x7b\n\x7d".toList
    let inside := run .javascript (lines.take 2)
    let outside := inside.step .javascript ⟨3, ['}']⟩
    outside = run .javascript lines ∧
      inside.scopes.entries = [⟨"global", .root⟩, ⟨"A", .classType⟩, ⟨"f", .function⟩] ∧
      outside.scopes.entries = [⟨"global", .root⟩, ⟨"A", .classType⟩] ∧
      outside.symbols = inside.symbols ∧ inside.scopes.depth ≤ (lines.take 2).length + 1 := by
  refine ⟨by decide, by decide, by decide, ?_, ?_⟩
  · exact (((scope_stack_machine .javascript).1 _ ⟨3, ['}']⟩).closing rfl).1
  · exact ((scope_stack_machine .javascript).2 _).2.2.2

end Context

end Symtab
