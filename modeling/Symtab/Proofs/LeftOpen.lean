import Symtab.Proofs.Preferred
import Symtab.Proofs.Scopes

/-!
# Bodies left open

A body is opened on a line with more opening than closing braces, or on one with neither a brace nor
a semicolon, so that the brace is to follow. Besides, every language with braces but Go has lines on
which the end of a declaration is overlooked, because it is looked for in one place alone.
-/

set_option autoImplicit false

namespace Symtab

/-- Neither the brace that opens a body nor the semicolon that stands for one. -/
def IsPlain (c : Char) : Prop :=
  c ≠ '{' ∧ c ≠ ';'

instance : DecidablePred IsPlain :=
  fun _ => inferInstanceAs (Decidable (_ ∧ _))

/-- A text that is plain outside of brackets of the given kinds. -/
inductive PlainOutside (brackets : List (Char × Char)) : List Char → Prop where
  | nil : PlainOutside brackets []
  | plain {c : Char} {rest : List Char} (isPlain : IsPlain c)
      (others : PlainOutside brackets rest) :
      PlainOutside brackets (c :: rest)
  | enclosed {opening closing : Char} {inside rest : List Char}
      (pair : (opening, closing) ∈ brackets)
      (upTo : closing ∉ inside) (others : PlainOutside brackets rest) :
      PlainOutside brackets (opening :: (inside ++ closing :: rest))

/-- The brackets whose contents are not looked into where the end of a declaration is looked for. -/
def Language.skippedBrackets : Language → List (Char × Char)
  | .c => [('(', ')')]
  | .cpp => [('(', ')'), ('<', '>')]
  | .javascript | .python | .java | .csharp | .go | .rust => []

/-- A line that declares symbols of the given kinds and on which the end of a declaration is
overlooked. -/
inductive Overlooked : Language → List Char → List Kind → Prop where
  /-- A semicolon counts at the end of the line alone. -/
  | semicolon {language : Language} {line : List Char} {kinds : List Kind}
      (searched : language ∈ [.javascript, .java, .csharp, .rust]) (noBrace : '{' ∉ line)
        (inside : ';' ∈ line)
      (notLast : line.getLast? ≠ some ';') : Overlooked language line kinds
  /-- All braces and semicolons are inside of brackets. -/
  | enclosed {language : Language} {line : List Char} {kinds : List Kind}
      (outside : PlainOutside language.skippedBrackets line) : Overlooked language line kinds
  /-- A constructor is ended by a semicolon or a brace at the end of the line alone. -/
  | constructor {line : List Char} {kinds : List Kind} (declared : .constructor ∈ kinds)
      (notSemicolon : line.getLast? ≠ some ';') (notBrace : line.getLast? ≠ some '}') :
        Overlooked .cpp line kinds
  /-- A namespace is taken to have a body whatever follows. -/
  | namespaceLine (rest : List Char) (kinds : List Kind) : Overlooked .csharp
      ("namespace".toList ++ rest) kinds
  /-- An implementation is ended by a brace at the end of the line alone. -/
  | implementation {start rest : List Char} {kinds : List Kind}
      (leading : start = [] ∨
        ∃ gap, start = "unsafe".toList ++ gap ∧ ∀ c ∈ gap, Text.isBlank c = true)
      (notBrace : (start ++ ("impl".toList ++ rest)).getLast? ≠ some '}') :
      Overlooked .rust (start ++ ("impl".toList ++ rest)) kinds

/-- A line that declares symbols of the given kinds and on which a body may be opened. -/
def LeftOpen (language : Language) (line : List Char) (kinds : List Kind) : Prop :=
  line.count '}' < line.count '{' ∨ ('{' ∉ line ∧ ';' ∉ line) ∨ Overlooked language line kinds

namespace LeftOpen

variable {language : Language} {line : List Char} {kinds : List Kind}

theorem mono {more : List Kind} (leftOpen : LeftOpen language line kinds) (inMore : kinds ⊆ more) :
    LeftOpen language line more := by
  rcases leftOpen with block | plain | overlooked
  · exact .inl block
  · exact .inr (.inl plain)
  · refine .inr (.inr ?_)
    cases overlooked with
    | semicolon searched noBrace inside notLast => exact .semicolon searched noBrace inside notLast
    | enclosed outside => exact .enclosed outside
    | constructor declared notSemicolon notBrace =>
      exact .constructor (inMore declared) notSemicolon notBrace
    | namespaceLine rest => exact .namespaceLine rest more
    | implementation leading notBrace => exact .implementation leading notBrace

private theorem of_opensBlock (opens : opensBlock line = true) : LeftOpen language line kinds :=
  .inl (by simpa [opensBlock] using opens)

section Searched

variable (searched : language ∈ [.javascript, .java, .csharp, .rust])

include searched

private theorem of_noBrace (noBrace : line.contains '{' = false)
    (notLast : endsIn line ';' = false) :
    LeftOpen language line kinds := by
  have absent : '{' ∉ line := by simpa using noBrace
  by_cases inside : ';' ∈ line
  · exact .inr (.inr (.semicolon searched absent inside (by simpa [endsIn] using notLast)))
  · exact .inr (.inl ⟨absent, inside⟩)

private theorem of_opensScope (opens : opensScope line = true) : LeftOpen language line kinds := by
  rcases Bool.or_eq_true_iff.mp opens with block | follows
  · exact of_opensBlock block
  · obtain ⟨noBrace, notLast⟩ := Bool.or_eq_false_iff.mp ((Bool.not_eq_true' _).mp follows)
    exact of_noBrace searched noBrace notLast

end Searched

end LeftOpen

/-!
## What readings hold
-/

namespace Pattern

/-- Whatever the pattern reads starts with a reading of another one and the given text behind it. -/
def Spells (pattern front : Pattern) (written : List Char) : Prop :=
  ∀ before text rest captures kept, pattern.Reads before text rest captures kept →
    ∃ start finish between, text = start ++ (written ++ finish) ∧
      front.Reads before start (written ++ finish ++ rest) captures between

private theorem spells_append_text (front : Pattern) (written : String) :
    (front ++ text written).Spells front written.toList := by
  rintro before _ rest captures kept ⟨start, _, between, rfl, readFront, ⟨rfl, _⟩⟩
  exact ⟨start, [], between, by simp, by simpa using readFront⟩

theorem Spells.append {front first : Pattern} {written : List Char}
    (spells : first.Spells front written) (second : Pattern) :
    (first ++ second).Spells front written := by
  rintro before _ rest captures kept ⟨text, more, _, rfl, readFirst, _⟩
  obtain ⟨start, finish, between, rfl, readFront⟩ :=
    spells before text (more ++ rest) captures _ readFirst
  exact ⟨start, finish ++ more, between, by simp, by simpa using readFront⟩

theorem Spells.line_eq {front pattern : Pattern} {written : List Char}
    (spells : pattern.Spells front written) (anchored : pattern.Anchored) {line : List Char}
    {found : Match} (isMatch : pattern.IsMatch line found) :
    ∃ start rest between, line = start ++ (written ++ rest) ∧
    front.Reads [] start (written ++ rest) [] between := by
  obtain ⟨before, text, rest, kept, rfl, reads, _⟩ := isMatch
  obtain rfl : before = [] := reads.before_eq_nil anchored
  obtain ⟨start, finish, between, rfl, readFront⟩ := spells [] text rest [] kept reads
  exact ⟨start, finish ++ rest, between, by simp, by simpa using readFront⟩

end Pattern

/-!
## Rules
-/

/-- A body is opened on a line that leaves one open alone. -/
def Effect.OpensLeftOpen (language : Language) (line : List Char) (effect : Effect) : Prop :=
  effect.opens ≠ [] → LeftOpen language line (effect.declarations.map Declaration.kind)

namespace Effect

variable {language : Language} {line : List Char} {declarations : List Declaration}
    {raw : List Char} {kind : ScopeKind}

private theorem opensLeftOpen_of_opens_nil {effect : Effect} (opens : effect.opens = []) :
    effect.OpensLeftOpen language line :=
  fun some => absurd opens some

private theorem opensLeftOpen_openedIf {leftOpen : Bool}
    (implies : leftOpen = true → LeftOpen language line (declarations.map Declaration.kind)) :
    OpensLeftOpen language line { declarations, opens := Scope.openedIf leftOpen raw kind } := by
  intro some
  cases leftOpen with
  | false => exact absurd rfl some
  | true => exact implies rfl

private theorem opensLeftOpen_opensBlock :
    OpensLeftOpen language line
      { declarations, opens := Scope.openedIf (opensBlock line) raw kind } :=
  opensLeftOpen_openedIf LeftOpen.of_opensBlock

private theorem opensLeftOpen_opensScope
    (searched : language ∈ [.javascript, .java, .csharp, .rust]) :
    OpensLeftOpen language line
      { declarations, opens := Scope.openedIf (opensScope line) raw kind } :=
  opensLeftOpen_openedIf (LeftOpen.of_opensScope searched)

end Effect

/-- The rule opens a body on lines that leave one open alone. -/
def Rule.OpensLeftOpen (language : Language) (rule : Rule) : Prop :=
  ∀ line context found, rule.pattern.IsMatch line found →
    Yields (Effect.OpensLeftOpen language line) (rule.effect? found.captures line context)

theorem Rule.OnlyDeclares.opensLeftOpen {rule : Rule} (onlyDeclares : rule.OnlyDeclares)
    (language : Language) :
    rule.OpensLeftOpen language := by
  intro line context found _
  refine (onlyDeclares found.captures line context).imp ?_
  rintro _ ⟨declarations, rfl⟩
  exact Effect.opensLeftOpen_of_opens_nil rfl

namespace Rules

open Effect

theorem JavaScript.cascade_opensLeftOpen :
    ∀ rule ∈ JavaScript.table.cascade, rule.OpensLeftOpen .javascript := by
  have searched : Language.javascript ∈ [.javascript, .java, .csharp, .rust] := by simp
  simp only [JavaScript.table, List.forall_mem_cons]
  refine ⟨?function, ?classes, ?constructors, ?method, ?field, ?destructuring, ?plainVariables,
    ?imports, by simp⟩
  all_goals intro line context found _
  case function => exact .bind fun _ => .some (opensLeftOpen_opensScope searched)
  case classes => exact .bind fun _ => .some (opensLeftOpen_opensScope searched)
  case constructors => exact .ite .none (.some opensLeftOpen_opensBlock)
  case method => exact .bind fun _ => .ite .none (.some opensLeftOpen_opensBlock)
  case field => exact .bind fun _ => .ite .none (.some (opensLeftOpen_of_opens_nil rfl))
  case destructuring => exact .bind fun _ => .bind fun _ => .some (opensLeftOpen_of_opens_nil rfl)
  case plainVariables => exact .bind fun _ => .bind fun _ => .some (opensLeftOpen_of_opens_nil rfl)
  case imports => exact .some (opensLeftOpen_of_opens_nil rfl)

theorem Java.cascade_opensLeftOpen : ∀ rule ∈ Java.table.cascade, rule.OpensLeftOpen .java := by
  have searched : Language.java ∈ [.javascript, .java, .csharp, .rust] := by simp
  simp only [Java.table, List.forall_mem_cons]
  refine ⟨?package, ?imports, ?classes, ?method, ?bareConstructor, ?plainVariables, by simp⟩
  all_goals intro line context found _
  case package => exact .some (opensLeftOpen_of_opens_nil rfl)
  case imports =>
    exact .bind fun _ => .ite (.some (opensLeftOpen_of_opens_nil rfl))
      (.some (opensLeftOpen_of_opens_nil rfl))
  case classes => exact .bind fun _ => .some (opensLeftOpen_opensScope searched)
  case method =>
    exact .bind fun _ => .bind fun _ => .ite .none (.some (opensLeftOpen_opensScope searched))
  case bareConstructor =>
    exact .bind fun _ => .ite .none (.some (opensLeftOpen_opensScope searched))
  case plainVariables =>
    exact .bind fun _ => .bind fun _ => .ite .none (.some (opensLeftOpen_of_opens_nil rfl))

theorem Go.cascade_opensLeftOpen : ∀ rule ∈ Go.table.cascade, rule.OpensLeftOpen .go := by
  simp only [Go.table, List.forall_mem_cons]
  refine ⟨?groupEnd, ?groupImport, ?groupSpec, ?package, ?groupStart, ?imports, ?function, ?types,
    ?constants, ?plainVariables, ?shortVariables, ?interfaceMethod, ?field, by simp⟩
  all_goals intro line context found _
  case groupEnd => exact .ite .none (.some (opensLeftOpen_of_opens_nil rfl))
  case groupImport => exact .ite .none (.bind fun _ => .some (opensLeftOpen_of_opens_nil rfl))
  case groupSpec => exact .bind fun _ => .bind fun _ => .some (opensLeftOpen_of_opens_nil rfl)
  case package => exact .some (opensLeftOpen_of_opens_nil rfl)
  case groupStart => exact .bind fun _ => .bind fun _ => .some (opensLeftOpen_of_opens_nil rfl)
  case imports => exact .bind fun _ => .some (opensLeftOpen_of_opens_nil rfl)
  case function => exact .bind fun _ => .some opensLeftOpen_opensBlock
  case types => exact .bind fun _ => .bind fun _ => .some opensLeftOpen_opensBlock
  case constants => exact .bind fun _ => .some (opensLeftOpen_of_opens_nil rfl)
  case plainVariables => exact .bind fun _ => .some (opensLeftOpen_of_opens_nil rfl)
  case shortVariables => exact .bind fun _ => .ite .none (.some (opensLeftOpen_of_opens_nil rfl))
  case interfaceMethod => exact .bind fun _ => .ite .none (.some (opensLeftOpen_of_opens_nil rfl))
  case field =>
    exact .bind fun _ => .bind fun _ => .ite .none (.some (opensLeftOpen_of_opens_nil rfl))

theorem CSharp.namespaces_opensLeftOpen : CSharp.namespaces.OpensLeftOpen .csharp := by
  intro line context found isMatch
  have spells : CSharp.namespaces.pattern.Spells .lineStart "namespace".toList :=
    ((Pattern.spells_append_text _ "namespace").append _).append _
  obtain ⟨_, rest, _, rfl, ⟨⟨rfl, _⟩, _⟩⟩ := spells.line_eq trivial isMatch
  exact .bind fun _ => .some fun _ => .inr (.inr (.namespaceLine rest _))

theorem CSharp.cascade_opensLeftOpen :
    ∀ rule ∈ CSharp.table.cascade, rule.OpensLeftOpen .csharp := by
  have searched : Language.csharp ∈ [.javascript, .java, .csharp, .rust] := by simp
  simp only [CSharp.table, List.forall_mem_cons]
  refine ⟨?usings, CSharp.namespaces_opensLeftOpen, ?classes, ?method, ?bareConstructor, ?property,
    ?plainVariables, by simp⟩
  all_goals intro line context found _
  case usings => exact .bind fun _ => .some (opensLeftOpen_of_opens_nil rfl)
  case classes => exact .bind fun _ => .some (opensLeftOpen_opensScope searched)
  case method =>
    exact .bind fun _ => .bind fun _ => .ite .none (.some (opensLeftOpen_opensScope searched))
  case bareConstructor =>
    exact .bind fun _ => .ite .none (.some (opensLeftOpen_opensScope searched))
  case property =>
    exact .bind fun _ => .bind fun _ => .ite .none (.some (opensLeftOpen_of_opens_nil rfl))
  case plainVariables =>
    exact .bind fun _ => .bind fun _ => .ite .none (.some (opensLeftOpen_of_opens_nil rfl))

theorem Rust.implementation_opensLeftOpen : Rust.implementation.OpensLeftOpen .rust := by
  intro line context found isMatch
  refine .bind fun _ => .some (opensLeftOpen_openedIf fun opens => ?_)
  rcases Bool.or_eq_true_iff.mp opens with unended | block
  · have notBrace : line.getLast? ≠ some '}' := by simpa [endsIn] using unended
    have spells : Rust.implementation.pattern.Spells
        (Pattern.lineStart ++ Pattern.optional (Pattern.text "unsafe" ++ Pattern.blanks1))
          "impl".toList :=
      ((((((Pattern.spells_append_text _ "impl").append _).append _).append _).append _).append
        _).append _
    obtain ⟨_, rest, _, rfl, ⟨_, leading, _, rfl, ⟨⟨rfl, _⟩, _⟩, readLeading⟩⟩ :=
      spells.line_eq trivial isMatch
    refine .inr (.inr (.implementation ?_ notBrace))
    rcases readLeading with ⟨_, gap, _, rfl, ⟨rfl, _⟩, readGap⟩ | ⟨rfl, _⟩
    · exact .inr ⟨gap, rfl, readGap.within ⟨fun _ => id, fun _ => id⟩⟩
    · exact .inl rfl
  · exact .of_opensBlock block

theorem Rust.structures_opensLeftOpen : Rust.structures.OpensLeftOpen .rust := by
  intro line context found _
  refine .bind fun _ => .bind fun _ => .some (opensLeftOpen_openedIf fun opens => ?_)
  obtain ⟨notLast, bodyLeft⟩ := Bool.and_eq_true_iff.mp opens
  rcases Bool.or_eq_true_iff.mp bodyLeft with block | noBrace
  · exact .of_opensBlock block
  · exact .of_noBrace (by simp) ((Bool.not_eq_true' _).mp noBrace)
      ((Bool.not_eq_true' _).mp notLast)

theorem Rust.cascade_opensLeftOpen : ∀ rule ∈ Rust.table.cascade, rule.OpensLeftOpen .rust := by
  have searched : Language.rust ∈ [.javascript, .java, .csharp, .rust] := by simp
  simp only [Rust.table, List.forall_mem_cons]
  refine ⟨?imports, ?function, Rust.implementation_opensLeftOpen, ?traits,
    Rust.structures_opensLeftOpen, ?typeAlias, ?modules,
    ?plainVariables, ?tupleVariables, ?statics, ?constants, ?field, by simp⟩
  all_goals intro line context found _
  case imports => exact .bind fun _ => .some (opensLeftOpen_of_opens_nil rfl)
  case function => exact .bind fun _ => .some (opensLeftOpen_opensScope searched)
  case traits => exact .bind fun _ => .some (opensLeftOpen_opensScope searched)
  case typeAlias => exact .bind fun _ => .some (opensLeftOpen_of_opens_nil rfl)
  case modules => exact .bind fun _ => .some opensLeftOpen_opensBlock
  case plainVariables =>
    exact .bind fun _ => .ite (.some (opensLeftOpen_of_opens_nil rfl))
      (.some (opensLeftOpen_of_opens_nil rfl))
  case tupleVariables => exact .bind fun _ => .some (opensLeftOpen_of_opens_nil rfl)
  case statics => exact .bind fun _ => .some (opensLeftOpen_of_opens_nil rfl)
  case constants => exact .bind fun _ => .some (opensLeftOpen_of_opens_nil rfl)
  case field =>
    exact .bind fun _ => .bind fun _ => .ite .none (.some (opensLeftOpen_of_opens_nil rfl))

end Rules

/-!
## Readings that are plain outside of brackets
-/

private theorem isPlain_of_class {inClass : Char → Bool} (noBrace : inClass '{' = false)
    (noSemicolon : inClass ';' = false) :
    ∀ c, inClass c = true → IsPlain c := by
  intro c inside
  constructor
  · rintro rfl
    rw [noBrace] at inside
    cases inside
  · rintro rfl
    rw [noSemicolon] at inside
    cases inside

private theorem isPlain_of_isBlank : ∀ c, Text.isBlank c = true → IsPlain c :=
  isPlain_of_class (by decide) (by decide)

private theorem isPlain_of_isWord : ∀ c, Text.isWord c = true → IsPlain c :=
  isPlain_of_class (by decide) (by decide)

namespace PlainOutside

variable {brackets : List (Char × Char)}

theorem of_forall {text : List Char} (plain : ∀ c ∈ text, IsPlain c) :
    PlainOutside brackets text := by
  induction text with
  | nil => exact .nil
  | cons c rest ih =>
    obtain ⟨first, others⟩ := List.forall_mem_cons.mp plain
    exact .plain first (ih others)

theorem append {first second : List Char} (plainFirst : PlainOutside brackets first)
    (plainSecond : PlainOutside brackets second) : PlainOutside brackets (first ++ second) := by
  induction plainFirst with
  | nil => exact plainSecond
  | plain isPlain _ ih => exact .plain isPlain ih
  | enclosed pair upTo _ ih =>
    rw [List.cons_append, List.append_assoc]
    exact .enclosed pair upTo ih

end PlainOutside

namespace Pattern

/-- Whatever the pattern reads is plain outside of the brackets. -/
def ReadsPlain (pattern : Pattern) (brackets : List (Char × Char)) : Prop :=
  ∀ before text rest captures kept, pattern.Reads before text rest captures kept →
    PlainOutside brackets text

variable {brackets : List (Char × Char)}

private theorem readsPlain_of_within {pattern : Pattern} (within : pattern.Within IsPlain) :
    pattern.ReadsPlain brackets :=
  fun _ _ _ _ _ reads => .of_forall (reads.within within)

theorem ReadsPlain.append {first second : Pattern} (plainFirst : first.ReadsPlain brackets)
    (plainSecond : second.ReadsPlain brackets) : (first ++ second).ReadsPlain brackets := by
  rintro before _ rest captures kept ⟨start, finish, between, rfl, readFirst, readSecond⟩
  exact (plainFirst before start _ captures between readFirst).append
    (plainSecond _ finish rest between kept readSecond)

theorem ReadsPlain.optional {piece : Pattern} (plain : piece.ReadsPlain brackets) :
    (Pattern.optional piece).ReadsPlain brackets := by
  intro before text rest captures kept reads
  rcases reads with readPiece | ⟨rfl, _⟩
  · exact plain before text rest captures kept readPiece
  · exact .nil

/-- A pair of brackets, whatever is read between them. -/
theorem ReadsPlain.bracketed {front : Pattern} (plain : front.ReadsPlain brackets)
    {opening closing : Char} (pair : (opening, closing) ∈ brackets) {inside : Pattern}
    (upTo : inside.Within (· ≠ closing)) :
    (front ++ char opening ++ inside ++ char closing).ReadsPlain brackets := by
  rintro before _ rest captures kept ⟨_, _, _, rfl,
    ⟨_, between, _, rfl, ⟨start, _, _, rfl, readFront, ⟨rfl, _⟩⟩, readInside⟩,
    ⟨rfl, _⟩⟩
  have notClosing : closing ∉ between := fun member => readInside.within upTo closing member rfl
  have whole :
      start ++ [opening] ++ between ++ [closing] =
        start ++ opening :: (between ++ closing :: []) := by simp
  rw [whole]
  exact (plain before start _ captures _ readFront).append (.enclosed pair notClosing .nil)

/-- Without its last piece kept, a pattern has read the whole line by the pieces before. -/
theorem Reads.of_not_has {front body : Pattern} {slot : Slot} {before text rest : List Char}
    {captures kept : Captures}
    (reads : (front ++ Pattern.optional (capture slot body) ++ lineEnd).Reads before text rest
      captures kept)
    (absent : kept.has slot = false) :
    rest = [] ∧ ∃ between, front.Reads before text [] captures between := by
  obtain ⟨_, _, _, rfl, ⟨start, _, between, rfl, readFront, readBody⟩, ⟨⟨rfl, rfl⟩, rfl⟩⟩ := reads
  rcases readBody with ⟨inside, _, rfl⟩ | ⟨rfl, _⟩
  · simp [Captures.has, Captures.text?] at absent
  · exact ⟨rfl, between, by simpa using readFront⟩

theorem IsMatch.plainOutside {front body : Pattern} {slot : Slot} {line : List Char} {found : Match}
    (isMatch : (front ++ Pattern.optional (capture slot body) ++ lineEnd).IsMatch line found)
    (absent : found.captures.has slot = false) (anchored : front.Anchored)
    (plain : front.ReadsPlain brackets) :
    PlainOutside brackets line := by
  obtain ⟨before, text, rest, kept, rfl, reads, rfl⟩ := isMatch
  obtain rfl : before = [] := reads.before_eq_nil anchored
  obtain ⟨rfl, between, readFront⟩ := reads.of_not_has absent
  simpa using plain [] text [] [] between readFront

private theorem noneOf_ne {c : Char} : ∀ d, noneOf [c] d = true → d ≠ c := by
  intro d outside
  simpa [noneOf] using outside

end Pattern

namespace Rules

open Effect Pattern

theorem C.function_opensLeftOpen : C.function.OpensLeftOpen .c := by
  intro line context found isMatch
  refine .bind fun _ => .bind fun _ => .ite .none (.some (opensLeftOpen_openedIf fun opens => ?_))
  rcases Bool.or_eq_true_iff.mp opens with block | noTail
  · exact .of_opensBlock block
  · have absent := (Bool.not_eq_true' _).mp noTail
    refine .inr (.inr (.enclosed (isMatch.plainOutside absent trivial ?_)))
    have leading : (one isAsciiNameStart ++ many (wordOr ['*']) ++ blanks1).Within IsPlain :=
      ⟨⟨isPlain_of_class (by decide) (by decide), isPlain_of_class (by decide) (by decide)⟩,
        isPlain_of_isBlank, isPlain_of_isBlank⟩
    have stars : (many (oneOf ['*'])).Within IsPlain := isPlain_of_class (by decide) (by decide)
    refine ReadsPlain.append (ReadsPlain.bracketed ?head ?pair ?parameters) ?gap
    case head =>
      exact readsPlain_of_within
        ⟨⟨⟨⟨trivial, leading, leading⟩, stars⟩, isPlain_of_isWord, isPlain_of_isWord⟩,
          isPlain_of_isBlank⟩
    case pair => simp [Language.skippedBrackets]
    case parameters => exact noneOf_ne
    case gap => exact readsPlain_of_within isPlain_of_isBlank

theorem C.cascade_opensLeftOpen : ∀ rule ∈ C.table.cascade, rule.OpensLeftOpen .c := by
  simp only [C.table, List.forall_mem_cons]
  refine ⟨?macroDefinition, C.function_opensLeftOpen, ?typeDefinition, ?typeDefinitionEnd,
    ?structures, ?plainVariables, by simp⟩
  all_goals intro line context found _
  case macroDefinition => exact .bind fun _ => .some (opensLeftOpen_of_opens_nil rfl)
  case typeDefinition => exact .bind fun _ => .some (opensLeftOpen_of_opens_nil rfl)
  case typeDefinitionEnd => exact .bind fun _ => .some (opensLeftOpen_of_opens_nil rfl)
  case structures => exact .bind fun _ => .some (opensLeftOpen_of_opens_nil rfl)
  case plainVariables =>
    exact .bind fun _ => .bind fun _ => .ite .none (.some (opensLeftOpen_of_opens_nil rfl))

theorem Cpp.constructorEffect_opensLeftOpen (line : List Char) (owner : String) (name : List Char) :
    (Cpp.constructorEffect line owner name).OpensLeftOpen .cpp line := by
  intro some
  cases cleaned : cleanName? name with
  | none => simp [Cpp.constructorEffect, Scope.openedIf, Scope.of?, cleaned] at some
  | some clean =>
    -- The name that is good enough for a scope is declared as a constructor.
    have declared :
        (Cpp.constructorEffect line owner name).declarations.map Declaration.kind =
          [.constructor] := by
      simp [Cpp.constructorEffect, Declaration.of?, cleaned]
    rw [declared]
    cases leftOpen : opensBlock line || !(endsIn line ';' || endsIn line '}') with
    | false =>
      have nothing : (Cpp.constructorEffect line owner name).opens = [] := by
        rw [Cpp.constructorEffect, leftOpen]
        rfl
      exact absurd nothing some
    | true =>
      rcases Bool.or_eq_true_iff.mp leftOpen with block | unended
      · exact .of_opensBlock block
      · obtain ⟨notSemicolon, notBrace⟩ :=
          Bool.or_eq_false_iff.mp ((Bool.not_eq_true' _).mp unended)
        exact .inr (.inr (.constructor (by simp) (by simpa [endsIn] using notSemicolon)
          (by simpa [endsIn] using notBrace)))

theorem Cpp.constructors_opensLeftOpen : Cpp.constructors.OpensLeftOpen .cpp := by
  intro line context found _
  exact .bind fun _ => .bind fun _ => .ite
    (.ite .none (.some (Cpp.constructorEffect_opensLeftOpen line _ _)))
    (.ite .none (.some (Cpp.constructorEffect_opensLeftOpen line _ _)))

theorem Cpp.parentheses_skipped : ('(', ')') ∈ Language.cpp.skippedBrackets := by
  simp [Language.skippedBrackets]

theorem Cpp.templateHead_readsPlain : Cpp.templateHead.ReadsPlain Language.cpp.skippedBrackets := by
  refine ReadsPlain.optional (ReadsPlain.append (ReadsPlain.bracketed ?word ?pair ?parameters) ?gap)
  case word =>
    exact readsPlain_of_within
      ⟨(by decide : ∀ c ∈ "template".toList, IsPlain c), isPlain_of_isBlank⟩
  case pair => simp [Language.skippedBrackets]
  case parameters => exact noneOf_ne
  case gap => exact readsPlain_of_within isPlain_of_isBlank

theorem Cpp.function_plainOutside {line : List Char} {found : Match}
    (isMatch : Cpp.function.pattern.IsMatch line found)
    (absent : found.captures.has .tail = false) :
    PlainOutside Language.cpp.skippedBrackets line := by
  refine isMatch.plainOutside absent trivial ?_
  have leading :
      (one isAsciiNameStart ++ many (wordOr [':', '<', '>', ',', '*', '&']) ++
        blanks1).Within IsPlain :=
    ⟨⟨isPlain_of_class (by decide) (by decide), isPlain_of_class (by decide) (by decide)⟩,
      isPlain_of_isBlank, isPlain_of_isBlank⟩
  have marks : (many (oneOf ['*', '&'])).Within IsPlain := isPlain_of_class (by decide) (by decide)
  have name : (Cpp.qualification ++ Cpp.memberName).Within IsPlain :=
    ⟨⟨⟨isPlain_of_isWord, isPlain_of_isWord⟩, (by decide : ∀ c ∈ "::".toList, IsPlain c)⟩,
      ⟨(by decide : ∀ c ∈ ['~'], IsPlain c), trivial⟩, isPlain_of_isWord, isPlain_of_isWord⟩
  have start : (lineStart ++ Cpp.templateHead).ReadsPlain Language.cpp.skippedBrackets :=
    ReadsPlain.append (readsPlain_of_within trivial) Cpp.templateHead_readsPlain
  refine ReadsPlain.append (ReadsPlain.append
    (ReadsPlain.bracketed (ReadsPlain.append
      (ReadsPlain.append (ReadsPlain.append (start.append ?head) ?marks) ?name) ?gap) ?pair
      ?parameters) ?further) ?qualifiers
  case head => exact readsPlain_of_within ⟨leading, leading⟩
  case marks => exact readsPlain_of_within marks
  case name => exact readsPlain_of_within name
  case gap => exact readsPlain_of_within isPlain_of_isBlank
  case pair => simp [Language.skippedBrackets]
  case parameters => exact noneOf_ne
  case further => exact readsPlain_of_within isPlain_of_isBlank
  case qualifiers => exact readsPlain_of_within (isPlain_of_class (by decide) (by decide))

theorem Cpp.function_opensLeftOpen : Cpp.function.OpensLeftOpen .cpp := by
  intro line context found isMatch
  have opened :
      (opensBlock line || !found.captures.has .tail) = true →
      ∀ kinds, LeftOpen .cpp line kinds := by
    intro opens kinds
    rcases Bool.or_eq_true_iff.mp opens with block | noTail
    · exact .of_opensBlock block
    · exact .inr
        (.inr (.enclosed (Cpp.function_plainOutside isMatch ((Bool.not_eq_true' _).mp noTail))))
  refine .bind fun _ => .bind fun _ => .bind fun _ => .ite .none ?_
  dsimp only
  split
  · exact .ite (.some (Cpp.constructorEffect_opensLeftOpen line _ _))
      (.some (opensLeftOpen_openedIf (opened · _)))
  · exact .ite (.some (Cpp.constructorEffect_opensLeftOpen line _ _))
      (.some (opensLeftOpen_openedIf (opened · _)))

theorem Cpp.namespaces_opensLeftOpen : Cpp.namespaces.OpensLeftOpen .cpp := by
  intro line context found isMatch
  refine .bind fun _ => .some (opensLeftOpen_openedIf fun opens => ?_)
  rcases Bool.or_eq_true_iff.mp opens with block | unbraced
  · exact .of_opensBlock block
  · have noBrace : '{' ∉ line := by simpa using unbraced
    obtain ⟨before, text, rest, kept, rfl, reads, rfl⟩ := isMatch
    obtain rfl : before = [] := reads.before_eq_nil trivial
    -- A body would start with the brace, and nothing else that is read can hold a semicolon.
    obtain ⟨_, _, _, rfl, ⟨start, _, _, rfl, readFront, readBody⟩, ⟨⟨rfl, rfl⟩, _⟩⟩ := reads
    rcases readBody with ⟨_, _, _, rfl, ⟨rfl, _⟩, _⟩ | ⟨rfl, _⟩
    · simp at noBrace
    · have inlined : ∀ c ∈ "inline".toList, IsPlain c := by decide
      have keyword : ∀ c ∈ "namespace".toList, IsPlain c := by decide
      have name : (many1 (wordOr [':'])).Within IsPlain :=
        ⟨isPlain_of_class (by decide) (by decide), isPlain_of_class (by decide) (by decide)⟩
      have spaced : blanks1.Within IsPlain := ⟨isPlain_of_isBlank, isPlain_of_isBlank⟩
      have plain :=
        readFront.within ⟨⟨⟨⟨⟨trivial, ⟨inlined, spaced⟩, trivial⟩, keyword⟩, spaced⟩, name⟩,
          isPlain_of_isBlank⟩
      exact .inr (.inl ⟨noBrace, by simpa using fun member => (plain _ member).2 rfl⟩)

theorem Cpp.alignment_readsPlain :
    (text "alignas(" ++ many (noneOf [')']) ++ char ')' ++ blanks1).ReadsPlain
      Language.cpp.skippedBrackets := by
  have bracketed :
      (text "alignas(" ++ many (noneOf [')']) ++ char ')').ReadsPlain
        Language.cpp.skippedBrackets := by
    rintro before _ rest captures kept
      ⟨_, _, _, rfl, ⟨_, inside, _, rfl, ⟨rfl, _⟩, ⟨upTo, _⟩⟩, ⟨rfl, _⟩⟩
    have notClosing : ')' ∉ inside := fun member => noneOf_ne _ (upTo ')' member) rfl
    have word : ∀ c ∈ "alignas".toList, IsPlain c := by decide
    have whole :
        "alignas(".toList ++ inside ++ [')'] = "alignas".toList ++ '(' :: (inside ++ ')' :: []) :=
      rfl
    rw [whole]
    exact (PlainOutside.of_forall word).append (.enclosed Cpp.parentheses_skipped notClosing .nil)
  exact bracketed.append (readsPlain_of_within ⟨isPlain_of_isBlank, isPlain_of_isBlank⟩)

theorem Cpp.classes_plainOutside {line : List Char} {found : Match}
    (isMatch : Cpp.classes.pattern.IsMatch line found) (absent : found.captures.has .tail = false) :
    PlainOutside Language.cpp.skippedBrackets line := by
  refine isMatch.plainOutside absent trivial ?_
  have written : ∀ word ∈ ["class", "struct", "union", "enum"], ∀ c ∈ word.toList, IsPlain c := by
    decide
  have spaced : blanks1.Within IsPlain := ⟨isPlain_of_isBlank, isPlain_of_isBlank⟩
  have enumeration : (anyText ["class", "struct"]).Within IsPlain :=
    ⟨written "class" (by simp), written "struct" (by simp)⟩
  have keyword : (anyText ["class", "struct", "union", "enum"]).Within IsPlain :=
    ⟨written "class" (by simp), written "struct" (by simp), written "union" (by simp),
      written "enum" (by simp)⟩
  have start : (lineStart ++ Cpp.templateHead).ReadsPlain Language.cpp.skippedBrackets :=
    ReadsPlain.append (readsPlain_of_within trivial) Cpp.templateHead_readsPlain
  refine ReadsPlain.append (ReadsPlain.append
    (ReadsPlain.append (ReadsPlain.append
      (ReadsPlain.append (ReadsPlain.append (start.append ?keyword) ?space) ?alignment) ?name) ?gap)
      ?final) ?bases
  case keyword =>
    exact readsPlain_of_within ⟨⟨⟨written "enum" (by simp), spaced⟩, enumeration⟩, keyword⟩
  case space => exact readsPlain_of_within spaced
  case alignment => exact Cpp.alignment_readsPlain.optional
  case name => exact readsPlain_of_within ⟨isPlain_of_isWord, isPlain_of_isWord⟩
  case gap => exact readsPlain_of_within isPlain_of_isBlank
  case final =>
    exact ReadsPlain.optional (readsPlain_of_within
      ⟨(by decide : ∀ c ∈ "final".toList, IsPlain c), isPlain_of_isBlank⟩)
  case bases =>
    exact ReadsPlain.optional (readsPlain_of_within
      ⟨(by decide : ∀ c ∈ [':'], IsPlain c), isPlain_of_class (by decide) (by decide)⟩)

theorem Cpp.classes_opensLeftOpen : Cpp.classes.OpensLeftOpen .cpp := by
  intro line context found isMatch
  refine .bind fun _ => .some (opensLeftOpen_openedIf fun opens => ?_)
  cases tail : found.captures.text? .tail with
  | some text =>
    rw [tail] at opens
    exact .of_opensBlock (Bool.and_eq_true_iff.mp opens).2
  | none =>
    have absent : found.captures.has .tail = false := by rw [Captures.has, tail]; rfl
    exact .inr (.inr (.enclosed (Cpp.classes_plainOutside isMatch absent)))

theorem Cpp.cascade_opensLeftOpen : ∀ rule ∈ Cpp.table.cascade, rule.OpensLeftOpen .cpp := by
  simp only [Cpp.table, List.forall_mem_cons]
  refine ⟨?macroDefinition, Cpp.namespaces_opensLeftOpen, Cpp.classes_opensLeftOpen,
    Cpp.constructors_opensLeftOpen, Cpp.function_opensLeftOpen, ?plainVariables, by simp⟩
  all_goals intro line context found _
  case macroDefinition => exact .bind fun _ => .some (opensLeftOpen_of_opens_nil rfl)
  case plainVariables =>
    exact .bind fun _ => .bind fun _ => .bind fun _ =>
      .ite .none (.some (opensLeftOpen_of_opens_nil rfl))

end Rules

theorem Language.cascade_opensLeftOpen {language : Language} (braces : language ≠ .python) :
    ∀ rule ∈ language.rules.cascade, rule.OpensLeftOpen language := by
  cases language with
  | javascript => exact Rules.JavaScript.cascade_opensLeftOpen
  | python => exact absurd rfl braces
  | java => exact Rules.Java.cascade_opensLeftOpen
  | c => exact Rules.C.cascade_opensLeftOpen
  | cpp => exact Rules.Cpp.cascade_opensLeftOpen
  | csharp => exact Rules.CSharp.cascade_opensLeftOpen
  | go => exact Rules.Go.cascade_opensLeftOpen
  | rust => exact Rules.Rust.cascade_opensLeftOpen

/-!
## Lines
-/

namespace Context

/-- One state comes from another by reading a line that opens a body on condition that it leaves one
open. -/
def OpensOnlyLeftOpen (language : Language) (line : List Char) (before after : Context) : Prop :=
  ∃ found, after.symbols = before.symbols ++ found ∧
    (after.scopes = before.scopes ∨ LeftOpen language line (found.map Symbol.kind))

theorem OpensOnlyLeftOpen.tryMatch {language : Language} {rule : Rule}
    (opens : rule.OpensLeftOpen language) {line : List Char} {found : Pattern.Match}
    (isMatch : rule.pattern.IsMatch line found) (number : Nat) {context before : Context}
    (holds : OpensOnlyLeftOpen language line context before) :
    OpensOnlyLeftOpen language line context
      (rule.tryMatch language number line before found).1 := by
  unfold Rule.tryMatch
  split
  · next effect outcome =>
    obtain ⟨symbols, added, sameOrOpen⟩ := holds
    have kinds : (effect.declarations.map (·.toSymbol language number)).map Symbol.kind =
        effect.declarations.map Declaration.kind := by
      rw [List.map_map]
      rfl
    refine ⟨symbols ++ effect.declarations.map (·.toSymbol language number),
      by simp [apply, added], ?_⟩
    rw [List.map_append, kinds]
    by_cases nothing : effect.opens = []
    · refine sameOrOpen.imp ?_ (·.mono (List.subset_append_left _ _))
      intro same
      simpa [apply, nothing] using same
    · exact .inr ((opens line before found isMatch effect outcome nothing).mono
        (List.subset_append_right _ _))
  · exact holds

private theorem read_opensOnlyLeftOpen {language : Language} (braces : language ≠ .python)
    (context : Context) (number : Nat) (line : List Char) :
    OpensOnlyLeftOpen language line context (context.read language.rules language number line) := by
  refine read_preserves (OpensOnlyLeftOpen language line context) ?_ ⟨[], by simp, .inl rfl⟩
  intro rule member before found isMatch holds
  refine OpensOnlyLeftOpen.tryMatch ?_ isMatch number holds
  rcases List.mem_append.mp member with inCascade | inChecks
  · exact language.cascade_opensLeftOpen braces rule inCascade
  · exact (language.checks_onlyDeclare rule inChecks).opensLeftOpen language

/-- A line that puts an entry on the stack of open bodies leaves a body open: it has more opening
than closing braces, or neither an opening brace nor a semicolon, unless it is one on which the end
of a declaration is overlooked. -/
theorem opened_body_leftOpen {language : Language} (braces : language ≠ .python) (context : Context)
    (line : Line) {scope : Scope}
    (opened : (context.step language line).scopes.entries = context.scopes.entries ++ [scope]) :
    line.text.count '}' < line.text.count '{' ∨ ('{' ∉ line.text ∧ ';' ∉ line.text) ∨
      Overlooked language line.text
        (((context.step language line).symbols.drop context.symbols.length).map Symbol.kind) := by
  have longer := congrArg List.length opened
  rw [List.length_append, List.length_singleton] at longer
  by_cases closes : line.text = ['}']
  · -- A closing brace takes an entry away or leaves the floor.
    have shorter := ((scopeStep language context line).closing closes).2.2.2
    split at shorter
    · rw [shorter] at longer
      omega
    · rw [shorter, List.length_dropLast] at longer
      omega
  · have same :
        context.step language line =
          context.read language.rules language line.number line.text := by
      rw [step, if_neg closes]
    obtain ⟨found, symbols, unchanged | leftOpen⟩ :=
      read_opensOnlyLeftOpen braces context line.number line.text
    · rw [same, unchanged] at longer
      omega
    · rw [same, symbols, List.drop_left]
      exact leftOpen

theorem class_above_brace_leftOpen :
    let line : Line := ⟨1, "class A".toList⟩
    (initial.step .java line).scopes.entries = initial.scopes.entries ++ [⟨"A", .classType⟩] ∧
      (line.text.count '}' < line.text.count '{' ∨ ('{' ∉ line.text ∧ ';' ∉ line.text) ∨
        Overlooked .java line.text [.classType]) := by
  have opened :
      (initial.step .java ⟨1, "class A".toList⟩).scopes.entries =
        initial.scopes.entries ++ [⟨"A", .classType⟩] := by
    decide
  exact ⟨opened, opened_body_leftOpen (by decide) initial _ opened⟩

/-- A remark behind the semicolon of a method without a body opens a body, and what follows in the
interface is taken to be inside of the method. -/
theorem remarked_method_opens :
    let context := run .java [⟨1, "interface A \x7b".toList⟩]
    let line : Line := ⟨2, "int f(); // note".toList⟩
    (context.step .java line).scopes.entries = context.scopes.entries ++ [⟨"f", .function⟩] ∧
      ¬(line.text.count '}' < line.text.count '{' ∨ ('{' ∉ line.text ∧ ';' ∉ line.text)) ∧
      (scan .java "interface A \x7b\nint f(); // note\nint x = 0;\n\x7d").map
        (fun symbol => (symbol.name, symbol.scope)) =
        [("A", "global"), ("f", "A"), ("x", "f")] := by
  decide

-- The other lines that are overlooked open a body, too.
example :
    ∀ entry ∈ [(Language.c, "int f(a;b)"), (.cpp, "template<a;b> class A"),
      (.cpp, "A::A() : b\x7b0\x7d, c(0)"),
        (.csharp, "namespace A;"), (.rust, "impl A \x7b\x7d // note")],
      (initial.step entry.1 ⟨1, entry.2.toList⟩).scopes.depth = 2 := by
  decide

end Context

end Symtab
