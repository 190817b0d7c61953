import Symtab.Proofs.GoSpecs

/-!
# Grouped declarations

The same declarations in a group and each on a line of its own. Imports and variables are read alike
both ways, constants only where each has a single name that is not blank, or several that are all
blank: in a group a constant with several names declares them all, on its own it is overlooked, and
a blank constant is reported on its own but not in a group.
-/

set_option autoImplicit false

namespace Symtab.GoTree

open Rules.Go

/-!
## Runs
-/

/-- A symbol without the number of its line. -/
def unnumbered : Symbol → Symbol :=
  Symbol.renumber fun _ => 0

section Runs

variable {α : Type} (declarations : α → List Declaration)

/-- The symbols of declarations that stand on a line each. -/
def symbolsOf (entry : α × Nat) : List Symbol :=
  (declarations entry.1).map (·.toSymbol .go entry.2)

private theorem map_unnumbered_symbolsOf (items : List α) (number : Nat) :
    ((items.zipIdx number).flatMap (symbolsOf declarations)).map unnumbered =
      (items.flatMap declarations).map (·.toSymbol .go 0) := by
  induction items generalizing number with
  | nil => rfl
  | cons item items ih =>
    rw [List.zipIdx_cons, List.flatMap_cons, List.flatMap_cons, List.map_append, List.map_append,
      ih, symbolsOf, List.map_map]
    rfl

end Runs

namespace Specs

/-- What the declarations declare in a group. -/
def groupedDeclarations (scope : String) : Specs → List Declaration
  | .values kind specs => specs.flatMap (ValueSpec.declarations · kind.kind scope)
  | .imports specs => specs.flatMap ImportSpec.declarations

/-- What the declarations declare each on its own. -/
def separateDeclarations (scope : String) : Specs → List Declaration
  | .values kind specs => specs.flatMap (ValueSpec.separateDeclarations · scope kind)
  | .imports specs => specs.flatMap ImportSpec.declarations

variable {context : Context} (outside : context.group = none) (specs : Specs) (number : Nat)

include outside

private theorem foldl_groupedLines :
    ∃ symbols, (numberFrom number specs.groupedLines).foldl (Context.step .go) context =
      context.adding symbols ∧
      symbols.map unnumbered =
        (specs.groupedDeclarations context.scopes.current).map (·.toSymbol .go 0) := by
  cases specs with
  | imports specs =>
    have each (spec : ImportSpec) (number : Nat) (later : Context)
      (inside : later.group = some .imports) :
        later.step .go ⟨number, spec.text⟩ =
          later.adding (symbolsOf ImportSpec.declarations (spec, number)) :=
      (spec.step_inside inside).trans (later.apply_declarations .go number _ true)
    have body :=
      Context.foldl_step_items _ _ (fun _ _ same => same) each specs (number + 1)
        { context with group := some .imports } rfl
    exact ⟨_, foldl_groupLines outside body,
      map_unnumbered_symbolsOf ImportSpec.declarations specs (number + 1)⟩
  | values kind specs =>
    have each (spec : ValueSpec) (number : Nat) (later : Context)
        (holds : groupKind? later.group = some kind.kind ∧
          later.scopes.current = context.scopes.current) :
        later.step .go ⟨number, spec.text⟩ =
          later.adding (symbolsOf (ValueSpec.declarations · kind.kind context.scopes.current)
            (spec, number)) := by
      rw [← holds.2]
      exact (spec.step_inside holds.1).trans (later.apply_declarations .go number _ true)
    have entered : groupKind? (some kind.group) = some kind.kind := by
      cases kind with
      | constant => rfl
      | plainVariable => rfl
    have body := Context.foldl_step_items _ _ (fun _ _ holds => holds) each specs (number + 1)
      { context with group := some kind.group } ⟨entered, rfl⟩
    exact ⟨_, foldl_groupLines outside body, map_unnumbered_symbolsOf _ specs (number + 1)⟩

private theorem foldl_separateLines :
    ∃ symbols, (numberFrom number specs.separateLines).foldl (Context.step .go) context =
      context.adding symbols ∧
      symbols.map unnumbered =
        (specs.separateDeclarations context.scopes.current).map (·.toSymbol .go 0) := by
  cases specs with
  | imports specs =>
    have each (spec : ImportSpec) (number : Nat) (later : Context) (outside : later.group = none) :
        later.step .go ⟨number, importWord.text ++ ' ' :: spec.text⟩ =
          later.adding (symbolsOf ImportSpec.declarations (spec, number)) :=
      (spec.step_separate outside).trans (later.apply_declarations .go number _ true)
    have run :=
      Context.foldl_step_items _ _ (fun _ _ same => same) each specs number context outside
    rw [separateLines, texts, List.map_map]
    exact ⟨_, run, map_unnumbered_symbolsOf ImportSpec.declarations specs number⟩
  | values kind specs =>
    have each (spec : ValueSpec) (number : Nat) (later : Context)
        (holds : later.group = none ∧ later.scopes.current = context.scopes.current) :
        later.step .go ⟨number, kind.keyword.text ++ ' ' :: spec.text⟩ =
          later.adding (symbolsOf (ValueSpec.separateDeclarations · context.scopes.current kind)
            (spec, number)) := by
      rw [← holds.2]
      exact spec.step_separate holds.1 kind
    have run :=
      Context.foldl_step_items _ _ (fun _ _ holds => holds) each specs number context ⟨outside, rfl⟩
    rw [separateLines, texts, List.map_map]
    exact ⟨_, run, map_unnumbered_symbolsOf _ specs number⟩

end Specs

/-!
## Agreement
-/

private theorem toSymbol_injective (number : Nat) :
    Function.Injective fun declaration : Declaration => declaration.toSymbol .go number := by
  intro first second same
  cases first
  cases second
  simpa [Declaration.toSymbol] using same

namespace ValueSpec

variable {spec : ValueSpec} {scope : String}

/-- A constant has the same meaning in a group and on its own: it has a single name, and not the
blank one, or several names that are all blank. -/
def ReadAlike (spec : ValueSpec) : Prop :=
  (spec.others = [] ∧ spec.first.text ≠ ['_']) ∨
    (spec.others ≠ [] ∧ ∀ name ∈ spec.names, name.text = ['_'])

/-- No list of names declares the blank one. -/
theorem declaration_not_mem_of_blank {other : ValueSpec} {kind : Kind} {name : Word}
    (blank : name.text = ['_']) :
    spec.declaration kind scope name ∉ other.declarations kind scope := by
  intro member
  obtain ⟨kept, listed, same⟩ := List.mem_map.mp member
  have nonblank : kept.text ≠ ['_'] := by simpa using (List.mem_filter.mp listed).2
  have sameName : kept.name = name.name := congrArg Declaration.name same
  exact nonblank ((String.ofList_injective sameName).trans blank)

private theorem declarations_of_single {kind : Kind} (single : spec.others = [])
    (nonblank : spec.first.text ≠ ['_']) :
    spec.declarations kind scope = [spec.declaration kind scope spec.first] := by
  simp [declarations, names, single, nonblank]

private theorem declarations_eq_nil_iff {kind : Kind} :
    spec.declarations kind scope = [] ↔ ∀ name ∈ spec.names, name.text = ['_'] := by
  simp [declarations]

private theorem declarations_eq_separate_iff :
    spec.declarations .constant scope = spec.separateDeclarations scope .constant ↔
      spec.ReadAlike := by
  by_cases single : spec.others = []
  · have reported :
        spec.separateDeclarations scope .constant = [spec.declaration .constant scope spec.first] :=
      if_pos single
    rw [reported]
    constructor
    · intro same
      have declared :
          spec.declaration .constant scope spec.first ∈ spec.declarations .constant scope := by
        rw [same]
        exact List.mem_singleton_self _
      exact .inl ⟨single, fun blank => declaration_not_mem_of_blank blank declared⟩
    · rintro (⟨-, nonblank⟩ | ⟨several, -⟩)
      · exact declarations_of_single single nonblank
      · exact absurd single several
  · have overlooked : spec.separateDeclarations scope .constant = [] := if_neg single
    rw [overlooked, declarations_eq_nil_iff]
    simp [ReadAlike, single]

/-- Constants are read alike in a group and on their own only if each of them is. -/
theorem flatMap_declarations_eq_iff (specs : List ValueSpec) (scope : String) :
    specs.flatMap (declarations · .constant scope) =
      specs.flatMap (separateDeclarations · scope .constant) ↔
      ∀ spec ∈ specs, spec.ReadAlike := by
  constructor
  · intro same
    -- A blank constant on its own would be reported under a name that no group reports.
    have nonblank : ∀ spec ∈ specs, spec.others = [] → spec.first.text ≠ ['_'] := by
      intro spec member single blank
      have reported :
          spec.declaration .constant scope spec.first ∈
            spec.separateDeclarations scope .constant := by
        rw [separateDeclarations, if_pos single]
        exact List.mem_singleton_self _
      have inGroup :
          spec.declaration .constant scope spec.first ∈
            specs.flatMap (declarations · .constant scope) := by
        rw [same]
        exact List.mem_flatMap.mpr ⟨spec, member, reported⟩
      obtain ⟨other, -, declared⟩ := List.mem_flatMap.mp inGroup
      exact declaration_not_mem_of_blank blank declared
    have shorter : ∀ spec ∈ specs,
        (spec.separateDeclarations scope .constant).length ≤
          (spec.declarations .constant scope).length := by
      intro spec member
      rw [separateDeclarations]
      split
      · next single => rw [declarations_of_single single (nonblank spec member single)]
      · exact Nat.zero_le _
    exact fun spec member => declarations_eq_separate_iff.mp
      ((Text.flatMap_eq_iff shorter).mp same spec member)
  · intro alike
    exact List.flatMap_congr fun spec member => declarations_eq_separate_iff.mpr (alike spec member)

end ValueSpec

namespace Specs

/-- Whether the declarations mean the same in a group and each on its own. -/
def ReadAlike : Specs → Prop
  | .values .constant specs => ∀ spec ∈ specs, spec.ReadAlike
  | .values .plainVariable _ | .imports _ => True

private theorem groupedDeclarations_eq_iff (specs : Specs) (scope : String) :
    specs.groupedDeclarations scope = specs.separateDeclarations scope ↔ specs.ReadAlike := by
  cases specs with
  | imports specs => exact iff_of_true rfl trivial
  | values kind specs =>
    cases kind with
    | plainVariable => exact iff_of_true rfl trivial
    | constant => exact ValueSpec.flatMap_declarations_eq_iff specs scope

end Specs

/-- A group of declarations and the same declarations on lines of their own each leave the context
as it was, but for the symbols that they add. In the group these are the declared names other than
the blank one, in order, and they are the symbols of the separate lines, line numbers aside, exactly
where the declarations are read alike: always for imports and variables. -/
theorem grouped_declarations_agree {context : Context} (outside : context.group = none)
    (specs : Specs) (first second : Nat) :
    ∃ grouped separate,
      (numberFrom first specs.groupedLines).foldl (Context.step .go) context =
        context.adding grouped ∧
      (numberFrom second specs.separateLines).foldl (Context.step .go) context =
        context.adding separate ∧
      grouped.map unnumbered =
        (specs.groupedDeclarations context.scopes.current).map (·.toSymbol .go 0) ∧
      (grouped.map unnumbered = separate.map unnumbered ↔ specs.ReadAlike) := by
  obtain ⟨grouped, groupRun, inGroup⟩ := specs.foldl_groupedLines outside first
  obtain ⟨separate, separateRun, onTheirOwn⟩ := specs.foldl_separateLines outside second
  refine ⟨grouped, separate, groupRun, separateRun, inGroup, ?_⟩
  rw [inGroup, onTheirOwn, (List.map_injective_iff.mpr (toSymbol_injective 0)).eq_iff]
  exact specs.groupedDeclarations_eq_iff context.scopes.current

theorem two_constants_disagree :
    let specs : Specs :=
  .values .constant [⟨.ofChar 'a' (by decide), [.ofChar 'b' (by decide)], none, "1, 2".toList⟩]
    Context.initial.group = none ∧
      ∃ grouped separate,
        (numberFrom 1 specs.groupedLines).foldl (Context.step .go) .initial =
          Context.initial.adding grouped ∧
        (numberFrom 1 specs.separateLines).foldl (Context.step .go) .initial =
          Context.initial.adding separate ∧
        grouped.map Symbol.name = ["a", "b"] ∧
          grouped.map unnumbered ≠ separate.map unnumbered := by
  intro specs
  have outside : Context.initial.group = none := rfl
  obtain ⟨grouped, separate, groupRun, separateRun, declared, agree⟩ :=
    grouped_declarations_agree outside specs 1 1
  refine ⟨outside, grouped, separate, groupRun, separateRun, ?_, ?_⟩
  · have named := congrArg (List.map Symbol.name) declared
    rw [List.map_map] at named
    exact named
  · intro same
    have alike := agree.mp same
    exact absurd alike (by simp [Specs.ReadAlike, ValueSpec.ReadAlike, ValueSpec.names, specs,
      Word.ofChar])

/-- Two constants of one spec are found in a group only, and the blank constant only outside of
one. -/
theorem constants_overlooked_outside_group :
    (scan .go "const (\na, b = 1, 2\n)").map Symbol.name = ["a", "b"] ∧
    scan .go "const a, b = 1, 2" = [] ∧
      scan .go "const (\n_ = 1\n)" = [] ∧ (scan .go "const _ = 1").map Symbol.name = ["_"] := by
  decide

end Symtab.GoTree
