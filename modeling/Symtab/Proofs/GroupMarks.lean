import Symtab.Proofs.SpecLines

/-!
# The group in force

Few lines have a say in which group of declarations is in force: a line that starts with a closing
parenthesis ends it, and a keyword with an opening parenthesis and nothing else begins one. Whatever
the open bodies and whichever group is in force, such a line is not taken for anything else, and no
other line touches the group. So the last of these lines decides, and inside of a group of constants
or variables every line of names declares them and does nothing besides.
-/

set_option autoImplicit false

namespace Symtab.GoTree

open Rules.Go Pattern

/-!
## Marks
-/

/-- The word that begins a group. -/
def groupKeyword : DeclarationGroup → String
  | .imports => "import"
  | .constants => "const"
  | .plainVariables => "var"

/-- The line sets the group in force: to none if it starts with a closing parenthesis, and to the
group of a keyword if it is the keyword with an opening parenthesis, white space between them or
not. -/
inductive Marks : List Char → Option DeclarationGroup → Prop where
  | closing (rest : List Char) : Marks (')' :: rest) none
  | opening (group : DeclarationGroup) (gap : Gap) : Marks
      ((groupKeyword group).toList ++ (gap.text ++ ['('])) (some group)

/-- The line has no say in the group in force. -/
def Unmarked (line : List Char) : Prop :=
  ∀ group, ¬Marks line group

private theorem marks_of_groupEnd {line : List Char} {found : Match}
    (isMatch : groupEnd.pattern.IsMatch line found) : Marks line none := by
  obtain ⟨before, _, rest, _, rfl, reads, _⟩ := isMatch
  have anchored : groupEnd.pattern.Anchored := trivial
  obtain rfl := reads.before_eq_nil anchored
  obtain ⟨_, _, _, rfl, ⟨⟨rfl, _⟩, _⟩, ⟨rfl, _⟩⟩ := reads
  exact .closing rest

private theorem exists_marks_of_groupStart {line : List Char} {found : Match}
    (isMatch : groupStart.pattern.IsMatch line found) :
    ∃ group, Marks line (some group) := by
  obtain ⟨before, _, rest, _, rfl, reads, _⟩ := isMatch
  have anchored : groupStart.pattern.Anchored := trivial
  obtain rfl := reads.before_eq_nil anchored
  obtain ⟨_, _, _, rfl, ⟨_, _, _, rfl,
    ⟨_, gap, _, rfl, ⟨_, _, _, rfl, ⟨⟨rfl, _⟩, _⟩, ⟨_, readKeyword, _⟩⟩, ⟨blank, _⟩⟩, ⟨rfl, _⟩⟩,
    ⟨⟨rfl, rfl⟩, _⟩⟩ := reads
  have listed : ∀ keyword ∈ ["import", "const", "var"], ∃ group, groupKeyword group = keyword := by
    simp only [List.forall_mem_cons]
    exact ⟨⟨.imports, rfl⟩, ⟨.constants, rfl⟩, ⟨.plainVariables, rfl⟩, List.forall_mem_nil _⟩
  obtain ⟨keyword, member, rfl⟩ := readKeyword.eq_of_anyText
  obtain ⟨group, rfl⟩ := listed keyword member
  exact ⟨group, by simpa using Marks.opening group ⟨gap, blank⟩⟩

/-!
## Rules that leave the group alone
-/

/-- Whatever the rule does with a matching line leaves the group in force as it is. -/
def KeepsGroup (rule : Rule) : Prop :=
  ∀ captures line context, Yields (fun effect => effect.group = .keep)
    (rule.effect? captures line context)

/-- Two rules change the group in force, and no others. -/
theorem cascade_keepsGroup :
    ∀ rule ∈ table.cascade, rule = groupEnd ∨ rule = groupStart ∨ KeepsGroup rule := by
  simp only [table, List.forall_mem_cons]
  refine ⟨.inl trivial, .inr (.inr ?groupImport), .inr (.inr ?groupSpec), .inr (.inr ?package),
    .inr (.inl trivial), .inr (.inr ?imports), .inr (.inr ?function), .inr (.inr ?types),
    .inr (.inr ?constants), .inr (.inr ?plainVariables), .inr (.inr ?shortVariables),
    .inr (.inr ?interfaceMethod), .inr (.inr ?field), List.forall_mem_nil _⟩
  all_goals intro captures line context
  case groupImport => exact .ite .none (.bind fun _ => .some rfl)
  case groupSpec => exact .bind fun _ => .bind fun _ => .some rfl
  case package => exact .some rfl
  case imports => exact .bind fun _ => .some rfl
  case function => exact .bind fun _ => .some rfl
  case types => exact .bind fun _ => .bind fun _ => .some rfl
  case constants => exact .bind fun _ => .some rfl
  case plainVariables => exact .bind fun _ => .some rfl
  case shortVariables => exact .bind fun _ => .ite .none (.some rfl)
  case interfaceMethod => exact .bind fun _ => .ite .none (.some rfl)
  case field => exact .bind fun _ => .bind fun _ => .ite .none (.some rfl)

/-- A line keeps the group in force if neither of the two rules changes it on that line. -/
theorem step_group_eq {line : Line} {group : Option DeclarationGroup}
    (ending : ∀ found, groupEnd.pattern.IsMatch line.text found → group = none)
    (noStart : ∀ found, ¬groupStart.pattern.IsMatch line.text found) {context : Context}
    (start : context.group = group) :
    (context.step .go line).group = group := by
  refine Context.step_preserves (·.group = group) ?_ (fun _ same => same) start
  intro rule member state found isMatch same
  have listed : rule ∈ table.cascade := (List.mem_append.mp member).resolve_right List.not_mem_nil
  rcases cascade_keepsGroup rule listed with rfl | rfl | keeps
  · exact .ite .none (.some (ending found isMatch).symm)
  · exact absurd isMatch (noStart found)
  · refine (keeps found.captures line.text state).imp fun effect kept => ?_
    simpa [Context.apply, kept, GroupChange.after] using same

/-!
## Steps
-/

private theorem step_group_of_unmarked {line : Line} (unmarked : Unmarked line.text)
    (context : Context) :
    (context.step .go line).group = context.group := by
  refine step_group_eq (fun found isMatch => ?_) (fun found isMatch => ?_) rfl
  · exact absurd (marks_of_groupEnd isMatch) (unmarked none)
  · obtain ⟨group, marks⟩ := exists_marks_of_groupStart isMatch
    exact unmarked (some group) marks

/-- Without a group in force, a closing parenthesis is passed on by the rule that ends a group, and
nothing else begins one. -/
theorem step_group_of_closing (number : Nat) (rest : List Char) (context : Context) :
    (context.step .go ⟨number, ')' :: rest⟩).group = none := by
  cases inForce : context.group with
  | none =>
    refine step_group_eq (fun _ _ => rfl) (fun found isMatch => ?_) inForce
    obtain ⟨group, marks⟩ := exists_marks_of_groupStart isMatch
    generalize spelled : ')' :: rest = line at marks
    cases marks with
    | opening group gap => cases group <;> simp [groupKeyword] at spelled
  | some group =>
    have finds : groupEnd.pattern.Finds (')' :: rest) [] :=
      ((takes_lineStart (')' :: rest) []).append (takes_literal [')'] [] rest [])).finds
    have outcome : groupEnd.effect? [] (')' :: rest) context = some { group := .enter none } := by
      simp [groupEnd, inForce]
    rw [Context.step_of_passed [] groupEnd _ rfl (List.forall_mem_nil _) (List.forall_mem_nil _)
      finds outcome rfl (by simp)]
    rfl

section Opening

variable (group : DeclarationGroup) (gap : Gap)

private theorem forall_mem_opening : ∀ c ∈ (groupKeyword group).toList ++ (gap.text ++ ['(']),
    Text.isWord c = true ∨ Text.isBlank c = true ∨ c = '(' := by
  have keyword : ∀ c ∈ (groupKeyword group).toList, Text.isWord c = true := by
    cases group <;> decide
  intro c member
  rcases List.mem_append.mp member with inKeyword | behind
  · exact .inl (keyword c inKeyword)
  · rcases List.mem_append.mp behind with inGap | last
    · exact .inr (.inl (gap.blank c inGap))
    · exact .inr (.inr (List.mem_singleton.mp last))

private theorem not_mem_opening {c : Char} (notWord : Text.isWord c = false)
    (visible : Text.isBlank c = false) (different : c ≠ '(') :
    c ∉ (groupKeyword group).toList ++ (gap.text ++ ['(']) := by
  intro member
  rcases forall_mem_opening group gap c member with word | blank | same
  · simp [word] at notWord
  · simp [blank] at visible
  · exact different same

private theorem groupStart_finds :
    groupStart.pattern.Finds ((groupKeyword group).toList ++ (gap.text ++ ['(']))
      [(.keyword, (groupKeyword group).toList)] := by
  have keyword :
      (anyText ["import", "const", "var"]).Takes
        ⟨[], (groupKeyword group).toList ++ (gap.text ++ ['('])⟩
      ⟨(groupKeyword group).toList.reverse ++ [], gap.text ++ ['(']⟩ [] [] := by
    cases group with
    | imports => exact .firstChoice (takes_literal "import".toList [] _ [])
    | constants =>
      exact .secondChoice (blocked_of_next (c := 'c') (by simp) (by simp) [] _)
        (.firstChoice (takes_literal "const".toList [] _ []))
    | plainVariables =>
      exact .secondChoice (blocked_of_next (c := 'v') (by simp) (by simp) [] _)
        (.secondChoice (blocked_of_next (c := 'v') (by simp) (by simp) [] _)
          (takes_literal "var".toList [] _ []))
  exact (((((takes_lineStart _ []).append (keyword.capture .keyword)).append
    (takes_many gap.blank (stops_before (by decide) []) _ _)).append
      (takes_literal ['('] _ [] _)).append (takes_lineEnd _ _)).finds

end Opening

/-- A line of names without a value is made of words, white space, commas and the signs of types. -/
theorem SpecLine.forall_mem_text (spec : SpecLine) (noValue : '=' ∉ spec.text) :
    ∀ c ∈ spec.text, Text.isBlank c = true ∨ wordOr [',', '.', '*', '[', ']'] c = true := by
  have word {c : Char} (isWord : Text.isWord c = true) :
      wordOr [',', '.', '*', '[', ']'] c = true := by simp [wordOr, isWord]
  have further :
      ∀ other ∈ spec.others, ∀ c ∈ other.text, Text.isBlank c = true ∨
      wordOr [',', '.', '*', '[', ']'] c = true := by
    intro other _
    rw [FurtherName.text, List.forall_mem_append, List.forall_mem_cons, List.forall_mem_append]
    exact ⟨fun c member => .inl (other.before.blank c member), .inr (by decide),
      fun c member => .inl (other.after.blank c member),
      fun c member => .inr (word (other.name.isWord c member))⟩
  have typed :
      ∀ c ∈ spec.type.elim [] SpacedType.text, Text.isBlank c = true ∨
      wordOr [',', '.', '*', '[', ']'] c = true := by
    cases spec.type with
    | none => exact List.forall_mem_nil _
    | some type =>
      rw [Option.elim_some, SpacedType.text, List.forall_mem_append]
      refine ⟨fun c member => .inl (type.space.blank c member), fun c member => .inr ?_⟩
      have inType := type.type.inType c member
      rw [wordOr, Bool.or_eq_true] at inType ⊢
      exact inType.imp_right fun sign => by simp at sign ⊢; exact .inr sign
  have ended : spec.ending = [] := by
    cases value : spec.value with
    | none => rw [ending, value]
    | some written => exact absurd (by simp [text, rest, ending, value]) noValue
  rw [text, namesText, rest, ended, List.append_nil]
  simp only [List.forall_mem_append]
  refine ⟨⟨fun c member => .inr (word (spec.first.isWord c member)), fun c member => ?_⟩, typed,
    fun c member => .inl (spec.gap.blank c member)⟩
  obtain ⟨other, listed, inOther⟩ := List.mem_flatMap.mp member
  exact further other listed c inOther

/-- The line that begins a group is not taken for anything else, whichever group is in force before
it. -/
theorem step_opening (number : Nat) (group : DeclarationGroup) (gap : Gap) (context : Context) :
    context.step .go ⟨number, (groupKeyword group).toList ++ (gap.text ++ ['('])⟩ =
      context.apply .go number { group := .enter (some group) } := by
  have absent {c : Char} := not_mem_opening group gap (c := c)
  have noNames :
      groupSpec.pattern.find? ((groupKeyword group).toList ++ (gap.text ++ ['('])) = none := by
    rw [← Option.not_isSome_iff_eq_none, groupSpec_find?_isSome_iff]
    rintro ⟨spec, same⟩
    have noValue : '=' ∉ spec.text := same ▸ absent (by decide) (by decide) (by decide)
    have paren : '(' ∈ spec.text := by simp [same]
    exact absurd (spec.forall_mem_text noValue '(' paren) (by decide)
  have noPackage :
      package.pattern.find? ((groupKeyword group).toList ++ (gap.text ++ ['('])) = none := by
    have anchored : package.pattern.Anchored := trivial
    cases group with
    | imports =>
      exact anchored.find?_eq_none
        (blocked_of_next (c := 'i') (by simp [package]) (by simp [package]) [] _)
    | constants =>
      exact anchored.find?_eq_none
        (blocked_of_next (c := 'c') (by simp [package]) (by simp [package]) [] _)
    | plainVariables =>
      exact anchored.find?_eq_none
        (blocked_of_next (c := 'v') (by simp [package]) (by simp [package]) [] _)
  have unmatched : ∀ other ∈ [groupEnd, groupImport, groupSpec, package],
      other.pattern.find? ((groupKeyword group).toList ++ (gap.text ++ ['('])) = none := by
    simp only [List.forall_mem_cons]
    exact ⟨find?_of_absentSign (')', groupEnd) (by simp [signRules])
      (absent (by decide) (by decide) (by decide)),
      find?_of_absentSign ('"', groupImport) (by simp [signRules])
        (absent (by decide) (by decide) (by decide)), noNames, noPackage,
      List.forall_mem_nil _⟩
  refine Context.step_of_claims_unchecked rfl [groupEnd, groupImport, groupSpec, package]
    groupStart _ rfl unmatched
    (groupStart_finds group gap) ?_ rfl (absent (by decide) (by decide) (by decide))
  cases group <;> rfl

private theorem step_group_of_marks {line : Line} {group : Option DeclarationGroup}
    (marks : Marks line.text group) (context : Context) :
    (context.step .go line).group = group := by
  obtain ⟨number, text⟩ := line
  cases marks with
  | closing rest => exact step_group_of_closing number rest context
  | opening group gap => exact congrArg Context.group (step_opening number group gap context)

/-!
## Runs
-/

/-- The group is the one that the last mark among the lines sets, and none if there is no mark among
them. -/
structure SetByLastMark (lines : List Line) (group : Option DeclarationGroup) : Prop where
  unmarked : (∀ line ∈ lines, Unmarked line.text) → group = none
  marked : ∀ earlier line later set, lines = earlier ++ line :: later → Marks line.text set →
    (∀ other ∈ later, Unmarked other.text) → group = set

private theorem setByLastMark_run (lines : List Line) :
    SetByLastMark lines (Context.run .go lines).group := by
  refine Context.run_induction (fun lines context => SetByLastMark lines context.group) .go
    ?_ ?_ lines
  · exact ⟨fun _ => rfl, fun earlier line later set split => absurd split (by simp)⟩
  · intro lines last before
    have kept (unmarked : Unmarked last.text) :=
      step_group_of_unmarked unmarked (Context.run .go lines)
    refine ⟨fun none => ?_, fun earlier line later set split marks others => ?_⟩
    · obtain ⟨noneBefore, unmarked⟩ := List.forall_mem_append.mp none
      exact (kept (unmarked last (List.mem_singleton_self last))).trans (before.unmarked noneBefore)
    · rcases List.eq_nil_or_concat later with rfl | ⟨between, final, rfl⟩
      · obtain ⟨-, same⟩ := List.append_inj' split rfl
        cases same
        exact step_group_of_marks marks _
      · rw [List.concat_eq_append, ← List.cons_append, ← List.append_assoc] at split
        obtain ⟨rfl, same⟩ := List.append_inj' split rfl
        cases same
        rw [List.concat_eq_append, List.forall_mem_append, List.forall_mem_singleton] at others
        exact (kept others.2).trans (before.marked earlier line between set rfl marks others.1)

/-- The group in force after any lines is the one that the last mark among them sets. A mark sets
its group from every state, and a line that is no mark leaves the group alone in every state. The
lines that the rule for a group of constants or variables matches are the lines of names, and in
such a group each of these declares its names other than the blank one, in the scope around it and
with the written type, and changes nothing else. -/
theorem group_set_by_last_mark :
    (∀ lines : List Line, SetByLastMark lines (Context.run .go lines).group) ∧
      (∀ (context : Context) (line : Line),
        (∀ group, Marks line.text group → (context.step .go line).group = group) ∧
          (Unmarked line.text → (context.step .go line).group = context.group)) ∧
      (∀ line, (groupSpec.pattern.find? line).isSome ↔ ∃ spec : SpecLine, spec.text = line) ∧
      ∀ (context : Context) (kind : ValueKind), context.group = some kind.group →
      ∀ (number : Nat) (spec : SpecLine),
        context.step .go ⟨number, spec.text⟩ =
          context.adding ((spec.declarations kind.kind context.scopes.current).map
            (·.toSymbol .go number)) := by
  refine ⟨setByLastMark_run, fun context line => ?_, fun line => groupSpec_find?_isSome_iff,
    fun context kind inForce number spec => ?_⟩
  · exact ⟨fun group marks => step_group_of_marks marks context,
      fun unmarked => step_group_of_unmarked unmarked context⟩
  · have inside : groupKind? context.group = some kind.kind := by
      rw [inForce]
      cases kind <;> rfl
    exact (spec.step_inside inside).trans (context.apply_declarations .go number _ true)

/-- A group that begins inside of another one takes its place, and the names below belong to it. -/
theorem inner_group_decides :
    let lines := numberFrom 1 ["const (".toList, "var(".toList]
    let spec : SpecLine := {
      first := .ofChar 'a' (by decide)
      others := [⟨⟨[], List.forall_mem_nil _⟩, ⟨[' '], by decide⟩, .ofChar '_' (by decide)⟩]
      type := some ⟨⟨[' '], by decide⟩, by decide, ⟨"int".toList, by decide, by decide⟩⟩
      gap := ⟨[], List.forall_mem_nil _⟩
      value := none }
    spec.text = "a, _ int".toList ∧ (Context.run .go lines).group = some .plainVariables ∧
      (Context.run .go lines).step .go ⟨3, spec.text⟩ = (Context.run .go lines).adding
        [{ name := "a", kind := .variable, scope := "global", line := 3, dataType := "int", language := .go }] := by
  intro lines spec
  obtain ⟨setByLast, -, -, read⟩ := group_set_by_last_mark
  have marks : Marks "var(".toList (some .plainVariables) :=
    .opening .plainVariables ⟨[], List.forall_mem_nil _⟩
  have inForce : (Context.run .go lines).group = some ValueKind.plainVariable.group :=
    (setByLast lines).marked [⟨1, "const (".toList⟩] ⟨2, "var(".toList⟩ [] _ rfl marks
      (List.forall_mem_nil _)
  exact ⟨by decide, inForce, (read _ .plainVariable inForce 3 spec).trans (by decide)⟩

end Symtab.GoTree
