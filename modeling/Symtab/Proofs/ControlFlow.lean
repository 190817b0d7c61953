import Symtab.Proofs.Directives
import Symtab.Proofs.LeadingWords

/-!
# Control flow

A line of C, C++, Java or C# that starts with a word of control flow may have the shape of a
declaration, such as `return x;`. The shape is then the same in all its readings: the word stands
where the type is expected, or it is the first of the words in front of a name. The rules for
functions, methods, properties and variables look for such words there and turn the line down.
-/

set_option autoImplicit false

namespace Symtab

theorem Text.ne_of_isBlank {c d : Char} (blank : isBlank c = true) (plain : isBlank d = false) :
    d ≠ c := by
  rintro rfl
  rw [plain] at blank
  cases blank

theorem Text.words_cons {run : List Char} (nonempty : run ≠ [])
    (visible : ∀ c ∈ run, isBlank c = false) {blank : Char} (isBlank : Text.isBlank blank = true)
    (rest : List Char) : words (run ++ blank :: rest) = run :: words rest := by
  have split : (run ++ blank :: rest).splitOnP Text.isBlank = run :: rest.splitOnP Text.isBlank :=
    List.splitOnP_append_cons_of_forall_mem (fun c member => by simp [visible c member]) blank
      (by simp [isBlank]) rest
  have kept : (!run.isEmpty) = true := by simpa using nonempty
  rw [words, split, List.filter_cons, if_pos kept, words]

namespace Pattern

theorem oneOf_eq_false {property : Char → Bool} {included : List Char}
    (apart : ∀ d ∈ included, property d = false) {c : Char} (holds : property c = true) :
    oneOf included c = false := by
  have unlisted : c ∉ included := by
    intro member
    rw [apart c member] at holds
    cases holds
  simpa [oneOf] using unlisted

theorem wordOr_eq_false_of_isBlank {included : List Char}
    (apart : ∀ d ∈ included, Text.isBlank d = false) {c : Char} (blank : Text.isBlank c = true) :
    wordOr included c = false := by
  have listed := oneOf_eq_false apart blank
  rw [oneOf] at listed
  rw [wordOr, Text.isWord_eq_false_of_isBlank blank, listed, Bool.or_false]

private theorem isAsciiNameStart_eq_false_of_isBlank {c : Char} (blank : Text.isBlank c = true) :
    isAsciiNameStart c = false := by
  refine Bool.eq_false_iff.mpr fun start => ?_
  rw [isAsciiNameStart, Bool.or_eq_true] at start
  have word : isAsciiWord c = true := by
    rw [isAsciiWord, Bool.or_eq_true, Char.isAlphanum, Bool.or_eq_true]
    exact start.imp_left .inl
  exact Text.not_exists_blank_word ⟨c, blank, isWord_of_isAsciiWord word⟩

/-!
## Readings at the start of a line
-/

/-- The pattern has no reading at the start of the text. -/
def Unread (pattern : Pattern) (after : List Char) : Prop :=
  ∀ before text rest captures kept, after = text ++ rest →
    ¬pattern.Reads before text rest captures kept

/-- The pattern has no reading at the start of the text but an empty one. -/
def Skips (pattern : Pattern) (after : List Char) : Prop :=
  ∀ before text rest captures kept, after = text ++ rest →
    pattern.Reads before text rest captures kept → text = []

section Skips

variable {first second piece : Pattern} {after : List Char}

theorem skips_lineStart (after : List Char) : lineStart.Skips after :=
  fun _ _ _ _ _ _ reads => reads.1.1

theorem Skips.append (firstSkips : first.Skips after) (secondSkips : second.Skips after) :
    (first ++ second).Skips after := by
  rintro before _ rest captures kept split ⟨start, finish, between, rfl, readFirst, readSecond⟩
  rw [List.append_assoc] at split
  obtain rfl := firstSkips _ _ _ _ _ split readFirst
  exact secondSkips _ _ _ _ _ split readSecond

theorem Unread.skips_optional (unread : piece.Unread after) : (optional piece).Skips after := by
  intro before text rest captures kept split reads
  rcases reads with readPiece | ⟨empty, _⟩
  · exact absurd readPiece (unread _ _ _ _ _ split)
  · exact empty

theorem Unread.skips_repeated (unread : piece.Unread after) : (repeated piece).Skips after := by
  intro before text rest captures kept split reads
  cases reads with
  | stop => rfl
  | more first _ =>
    rw [List.append_assoc] at split
    exact absurd first (unread _ _ _ _ _ split)

theorem Unread.append (unread : first.Unread after) (second : Pattern) :
    (first ++ second).Unread after := by
  rintro before _ rest captures kept split ⟨start, finish, between, rfl, readFirst, _⟩
  rw [List.append_assoc] at split
  exact unread _ _ _ _ _ split readFirst

end Skips

/-!
## The part that a slot holds
-/

@[simp] theorem keeps_anyText {slot : Slot} {property : List Char → Prop} :
    (written : List String) → (anyText written).Keeps slot property
  | [] => trivial
  | [_] => trivial
  | _ :: next :: others => ⟨trivial, keeps_anyText (next :: others)⟩

/-- What is kept under a slot that only one piece keeps is what that piece reads, behind what is in
front of it. -/
theorem Reads.captured {front piece back : Pattern} {slot : Slot} {before text rest : List Char}
    {kept : Captures}
    (reads : (front ++ (capture slot piece ++ back)).Reads before text rest [] kept)
    (frontKeeps : front.Keeps slot fun _ => False) (pieceKeeps : piece.Keeps slot fun _ => False)
    (backKeeps : back.Keeps slot fun _ => False) {part : List Char}
    (held : kept.text? slot = some part) :
    ∃ start finish between inside, text = start ++ (part ++ finish) ∧
      front.Reads before start (part ++ finish ++ rest) [] between ∧
      piece.Reads (start.reverse ++ before) part (finish ++ rest) between inside ∧
      back.Reads (part.reverse ++ (start.reverse ++ before)) finish rest
        ((slot, part) :: inside) kept := by
  obtain ⟨start, _, between, rfl, readFront,
    ⟨middle, finish, _, rfl, ⟨inside, readPiece, rfl⟩, readBack⟩⟩ := reads
  have absent := readPiece.absent pieceKeeps (readFront.absent frontKeeps fun _ => List.not_mem_nil)
  have same : part = middle := readBack.held_eq backKeeps absent held
  subst same
  exact ⟨start, finish, between, inside, rfl, readFront, readPiece, readBack⟩

/-- With nothing to read in front of it, the piece reads the start of the line. -/
theorem IsMatch.leadingPart {pattern front piece back : Pattern} {slot : Slot}
    (assoc : ∀ before text rest kept, pattern.Reads before text rest [] kept →
      (front ++ (capture slot piece ++ back)).Reads before text rest [] kept)
    {line : List Char} (skips : front.Skips line) (anchored : front.Anchored)
      (frontKeeps : front.Keeps slot fun _ => False)
    (pieceKeeps : piece.Keeps slot fun _ => False) (backKeeps : back.Keeps slot fun _ => False)
      {found : Match}
    (isMatch : pattern.IsMatch line found) {part : List Char}
      (held : found.captures.text? slot = some part) :
    ∃ finish others between inside kept, line = part ++ (finish ++ others) ∧
      piece.Reads [] part (finish ++ others) between inside ∧
      back.Reads part.reverse finish others ((slot, part) :: inside) kept := by
  obtain ⟨before, text, rest, kept, rfl, reads, rfl⟩ := isMatch
  obtain ⟨start, finish, between, inside, rfl, readFront, readPiece, readBack⟩ :=
    (assoc _ _ _ _ reads).captured frontKeeps pieceKeeps backKeeps held
  obtain rfl : before = [] := readFront.before_eq_nil anchored
  obtain rfl : start = [] := skips _ _ _ _ _ (by simp) readFront
  exact ⟨finish, rest, between, inside, kept, by simp, by simpa using readPiece,
    by simpa using readBack⟩

end Pattern

namespace AsciiWord

open Pattern

section Leading

variable (keyword : AsciiWord) {blank : Char} (isBlank : Text.isBlank blank = true)
    (rest : List Char)

private theorem prefix_of_wordRun {run others : List Char} {c : Char} (edge : Text.isWord c = false)
    (isWord : ∀ d ∈ run, Text.isWord d = true) (split : keyword.text ++ c :: rest = run ++ others) :
    run <+: keyword.text := by
  have whole : (keyword.text ++ c :: rest).takeWhile Text.isWord = keyword.text := by
    simp [List.takeWhile_append_of_pos keyword.isWord, edge]
  rw [split, List.takeWhile_append_of_pos isWord] at whole
  exact ⟨_, whole⟩

include isBlank

/-- A piece that does not reach over white space reads the whole word if what follows it cannot
start inside a word. -/
theorem eq_of_reads {piece back : Pattern} (unmet : ¬piece.Meets Text.isWord blank)
    (stuck : ¬back.Passes fun _ => false)
    (breaks : ∀ c, Text.isWord c = true → ¬back.Meets (fun _ => false) c)
    {before later part finish others : List Char} {captures inside between kept : Captures}
    (split : keyword.text ++ blank :: rest = part ++ (finish ++ others))
    (readPiece : piece.Reads before part (finish ++ others) captures inside)
    (readBack : back.Reads later finish others between kept) : part = keyword.text := by
  have edge := Text.isWord_eq_false_of_isBlank isBlank
  have first := keyword.find?_not_isWord edge rest
  -- The first character of the line that is in no word is the white space, and the piece cannot
  -- reach it.
  have isRun : ∀ c ∈ part, Text.isWord c = true := by
    rcases readPiece.meets Text.isWord with ⟨allSkipped, _⟩ | ⟨c, found, meets⟩
    · simpa using allSkipped
    · rw [split, List.find?_append, found, Option.some_or] at first
      cases first
      exact absurd meets unmet
  obtain ⟨c, more, rfl, meets⟩ := readBack.exists_first stuck
  exact (eq_of_wordRuns split keyword.isWord isRun edge
    (Bool.eq_false_iff.mpr fun word => breaks c word meets)).symm

/-- The same for the piece whose text a rule keeps, when nothing is read in front of it. -/
theorem eq_of_leadingPart {pattern front piece back : Pattern} {slot : Slot}
    (assoc : ∀ before text rest kept, pattern.Reads before text rest [] kept →
      (front ++ (capture slot piece ++ back)).Reads before text rest [] kept)
    (skips : front.Skips (keyword.text ++ blank :: rest)) (anchored : front.Anchored)
    (frontKeeps : front.Keeps slot fun _ => False) (pieceKeeps : piece.Keeps slot fun _ => False)
    (backKeeps : back.Keeps slot fun _ => False) (unmet : ¬piece.Meets Text.isWord blank)
    (stuck : ¬back.Passes fun _ => false)
    (breaks : ∀ c, Text.isWord c = true → ¬back.Meets (fun _ => false) c) {found : Match}
    (isMatch : pattern.IsMatch (keyword.text ++ blank :: rest) found) {part : List Char}
    (held : found.captures.text? slot = some part) : part = keyword.text := by
  obtain ⟨finish, others, between, inside, kept, split, readPiece, readBack⟩ :=
    isMatch.leadingPart assoc skips anchored frontKeeps pieceKeeps backKeeps held
  exact keyword.eq_of_reads isBlank rest unmet stuck breaks split readPiece readBack

private theorem eq_of_spacedPart {pattern front piece back : Pattern} {slot : Slot}
    (assoc : ∀ before text rest kept, pattern.Reads before text rest [] kept →
      (front ++ (capture slot piece ++ (blanks1 ++ back))).Reads before text rest [] kept)
    (skips : front.Skips (keyword.text ++ blank :: rest)) (anchored : front.Anchored)
    (frontKeeps : front.Keeps slot fun _ => False) (pieceKeeps : piece.Keeps slot fun _ => False)
    (backKeeps : back.Keeps slot fun _ => False) (unmet : ¬piece.Meets Text.isWord blank)
      {found : Match}
    (isMatch : pattern.IsMatch (keyword.text ++ blank :: rest) found) {part : List Char}
    (held : found.captures.text? slot = some part) : part = keyword.text := by
  refine keyword.eq_of_leadingPart isBlank rest assoc skips anchored frontKeeps pieceKeeps
    ⟨keeps_blanks1, backKeeps⟩ unmet
    (by simp) ?_ isMatch held
  intro c word
  simp [Text.isBlank_eq_false_of_isWord word]

private theorem skips_leadingWords (written : List String)
    (areWords : ∀ word ∈ written, ∀ c ∈ word.toList, Text.isWord c = true)
    (unlisted : isAmong written keyword.text = false) :
    (lineStart ++ repeated (leadingWord written)).Skips (keyword.text ++ blank :: rest) := by
  have unread : (leadingWord written).Unread (keyword.text ++ blank :: rest) := by
    intro before text others captures kept split reads
    have listed :=
      (reads.eq_of_leadingWord areWords (Text.isWord_eq_false_of_isBlank isBlank) split).1
    rw [unlisted] at listed
    cases listed
  exact (skips_lineStart _).append unread.skips_repeated

private theorem unread_text {written : String} (isWord : ∀ c ∈ written.toList, Text.isWord c = true)
    (other : ¬written.toList <+: keyword.text) :
    (Pattern.text written).Unread (keyword.text ++ blank :: rest) := by
  rintro before _ others captures kept split ⟨rfl, _⟩
  exact other (keyword.prefix_of_wordRun rest (Text.isWord_eq_false_of_isBlank isBlank)
    isWord split)

private theorem words_append_blank :
    Text.words (keyword.text ++ blank :: rest) = keyword.text :: Text.words rest :=
  Text.words_cons keyword.nonempty keyword.isBlank isBlank rest

/-- Words in front of a name, with white space behind each, start with the first word of the
line. -/
theorem mem_words_of_reads {leading inside : Char → Bool} (noLeading : leading blank = false)
    (noInside : inside blank = false) {before head others : List Char} {captures kept : Captures}
    (reads : (repeated1 (one leading ++ many inside ++ blanks1)).Reads before head others
      captures kept)
    (split : keyword.text ++ blank :: rest = head ++ others) : keyword.text ∈ Text.words head := by
  obtain ⟨_, more, _, rfl, ⟨run, gap, _, rfl, readRun, readGap⟩, _⟩ := reads
  have breaks : ∀ c, Text.isWord c = true → ¬blanks1.Meets (fun _ => false) c := by
    intro c word
    simp [Text.isBlank_eq_false_of_isWord word]
  have same : run = keyword.text := by
    refine keyword.eq_of_reads isBlank rest (by simp [noLeading, noInside]) (by simp) breaks ?_
      readRun readGap
    simpa using split
  obtain ⟨spaced, blanks, _⟩ := readGap.of_many1
  obtain ⟨c, others, rfl⟩ := List.exists_cons_of_ne_nil spaced
  have words := keyword.words_append_blank (blanks c List.mem_cons_self) (others ++ more)
  rw [same, List.append_assoc, List.cons_append, words]
  exact List.mem_cons_self

end Leading

private theorem unread_char (keyword : AsciiWord) {sign : Char} (outside : Text.isWord sign = false)
    (rest : List Char) :
    (char sign).Unread (keyword.text ++ rest) := by
  rintro before _ others captures kept split ⟨rfl, _⟩
  obtain ⟨c, letters, spelled⟩ := keyword.exists_cons
  have isWord := keyword.isWord c (by rw [spelled]; exact List.mem_cons_self)
  rw [spelled] at split
  obtain ⟨rfl, _⟩ := List.cons.inj split
  rw [outside] at isWord
  cases isWord

end AsciiWord

/-!
## Rules
-/

/-- On the line the rule declares nothing of one of the kinds. -/
def Rule.AvoidsOn (kinds : List Kind) (line : List Char) (rule : Rule) : Prop :=
  ∀ context found, rule.pattern.IsMatch line found →
    Yields (Effect.Avoids kinds) (rule.effect? found.captures line context)

theorem Rule.Avoids.on {kinds : List Kind} {rule : Rule} (avoids : rule.Avoids kinds)
    (line : List Char) :
    rule.AvoidsOn kinds line :=
  fun context found _ => avoids found.captures line context

/-- The kinds of declarations that hold code or a value. -/
def codeKinds : List Kind :=
  [.function, .method, .variable, .constant, .property]

private theorem classType_not_mem_codeKinds : Kind.classType ∉ codeKinds := by decide

private theorem constructor_not_mem_codeKinds : Kind.constructor ∉ codeKinds := by decide

private theorem imported_not_mem_codeKinds : Kind.imported ∉ codeKinds := by decide

namespace Rules

open Effect Declaration

theorem C.avoids_codeKinds :
    ∀ rule ∈ [C.typeDefinition, C.typeDefinitionEnd, C.structures], rule.Avoids codeKinds := by
  simp only [List.forall_mem_cons]
  refine ⟨?typeDefinition, ?typeDefinitionEnd, ?structures, by simp⟩
  all_goals
    intro captures line context
    exact .bind fun _ => .some
      (avoids_ofDeclarations (avoids_of? classType_not_mem_codeKinds _ _ _ _))

theorem Cpp.constructorEffect_avoids (line : List Char) (owner : String) (name : List Char) :
    (Cpp.constructorEffect line owner name).Avoids codeKinds :=
  avoids_opening (avoids_of? constructor_not_mem_codeKinds _ _ _ _) _

theorem Cpp.avoids_codeKinds :
    ∀ rule ∈ [Cpp.namespaces, Cpp.classes, Cpp.constructors], rule.Avoids codeKinds := by
  simp only [List.forall_mem_cons]
  refine ⟨?namespaces, ?classes, ?constructors, by simp⟩
  all_goals intro captures line context
  case namespaces => exact .bind fun _ => .some (avoids_opening (by simp) _)
  case classes =>
    exact .bind fun _ => .some (avoids_opening (avoids_of? classType_not_mem_codeKinds _ _ _ _) _)
  case constructors =>
    exact .bind fun _ => .bind fun _ => .ite
      (.ite .none (.some (Cpp.constructorEffect_avoids _ _ _)))
        (.ite .none (.some (Cpp.constructorEffect_avoids _ _ _)))

theorem Java.avoids_codeKinds :
    ∀ rule ∈ [Java.package, Java.imports, Java.classes, Java.bareConstructor],
      rule.Avoids codeKinds := by
  simp only [List.forall_mem_cons]
  refine ⟨?package, ?imports, ?classes, ?bareConstructor, by simp⟩
  all_goals intro captures line context
  case package => exact .some avoids_nothing
  case imports =>
    exact .bind fun _ => .ite (.some avoids_nothing)
      (.some (avoids_opening (avoids_of? imported_not_mem_codeKinds _ _ _ _) []))
  case classes =>
    exact .bind fun _ => .some (avoids_opening (avoids_of? classType_not_mem_codeKinds _ _ _ _) _)
  case bareConstructor =>
    exact .bind fun _ => .ite .none
      (.some (avoids_opening (avoids_of? constructor_not_mem_codeKinds _ _ _ _) _))

theorem CSharp.avoids_codeKinds :
    ∀ rule ∈ [CSharp.usings, CSharp.namespaces, CSharp.classes, CSharp.bareConstructor],
      rule.Avoids codeKinds := by
  simp only [List.forall_mem_cons]
  refine ⟨?usings, ?namespaces, ?classes, ?bareConstructor, by simp⟩
  all_goals intro captures line context
  case usings =>
    exact .bind fun _ => .some (avoids_opening (avoids_of? imported_not_mem_codeKinds _ _ _ _) [])
  case namespaces => exact .bind fun _ => .some (avoids_opening (by simp) _)
  case classes =>
    exact .bind fun _ => .some (avoids_opening (avoids_of? classType_not_mem_codeKinds _ _ _ _) _)
  case bareConstructor =>
    exact .bind fun _ => .ite .none
      (.some (avoids_opening (avoids_of? constructor_not_mem_codeKinds _ _ _ _) _))

open Pattern

section Statement

variable {keyword : AsciiWord} {blank : Char} (rest : List Char) (kinds : List Kind)

private theorem macroDefinition_avoidsOn :
    macroDefinition.AvoidsOn kinds (keyword.text ++ blank :: rest) := by
  intro context found isMatch
  obtain ⟨name, defines⟩ := exists_definesMacro_of_isMatch isMatch
  have hash := defines.head?_eq
  obtain ⟨c, others, spelled⟩ := keyword.exists_cons
  have isWord := keyword.isWord c (by rw [spelled]; exact List.mem_cons_self)
  rw [spelled] at hash
  cases hash
  exact absurd isWord (by decide)

variable (isBlank : Text.isBlank blank = true)

include isBlank

theorem Java.typeName_unmet : ¬Java.typeName.Meets Text.isWord blank := by
  have noType : wordOr ['.'] blank = false := wordOr_eq_false_of_isBlank (by decide) isBlank
  have noAngle := Text.ne_of_isBlank (d := '<') isBlank (by decide)
  have noBracket := Text.ne_of_isBlank (d := '[') isBlank (by decide)
  have isWordAngle : Text.isWord '<' = false := by decide
  have isWordBracket : Text.isWord '[' = false := by decide
  simp [Java.typeName, Java.brackets, noType, noAngle, noBracket, isWordAngle, isWordBracket]

theorem CSharp.typeName_unmet : ¬CSharp.typeName.Meets Text.isWord blank := by
  have shape : CSharp.typeName = Java.typeName ++ optional (char '?') := rfl
  have noMark := Text.ne_of_isBlank (d := '?') isBlank (by decide)
  rw [shape]
  simp [Java.typeName_unmet isBlank, noMark]

variable (leads : isStatementKeyword keyword.text = true)

include leads

theorem C.plainVariables_avoidsOn (unlisted : isAmong C.qualifiers keyword.text = false) :
    C.plainVariables.AvoidsOn kinds (keyword.text ++ blank :: rest) := by
  intro context found isMatch
  refine .bindKept fun dataType held => .bind fun name => ?_
  have skips := keyword.skips_leadingWords isBlank rest C.qualifiers (by decide) unlisted
  have noWord := Text.isWord_eq_false_of_isBlank isBlank
  have noStar : ∀ c, Text.isWord c = true → oneOf ['*'] c = false :=
    fun _ => oneOf_eq_false (by decide)
  have same : dataType = keyword.text := by
    refine keyword.eq_of_leadingPart isBlank rest
      (fun _ _ _ _ reads => reads.assoc.assoc.assoc.assoc.assoc.assoc) skips trivial
      (by simp) (by simp) (by simp [C.bounds]) (by simp [noWord]) (by simp) ?_ isMatch held
    intro c word
    simp [noStar c word, Text.isBlank_eq_false_of_isWord word]
  simp only [same, leads, Bool.true_or, if_true]
  exact .none

theorem C.function_avoidsOn : C.function.AvoidsOn kinds (keyword.text ++ blank :: rest) := by
  intro context found isMatch
  refine .bindKept fun head held => .bind fun name => ?_
  have noStart := isAsciiNameStart_eq_false_of_isBlank isBlank
  have noInside : wordOr ['*'] blank = false := wordOr_eq_false_of_isBlank (by decide) isBlank
  obtain ⟨finish, others, between, inside, kept, split, readHead, _⟩ :=
    isMatch.leadingPart
      (fun _ _ _ _ reads => reads.assoc.assoc.assoc.assoc.assoc.assoc.assoc.assoc.assoc)
      (skips_lineStart _) trivial (by simp) (by simp) (by simp [C.openBody]) held
  have member := keyword.mem_words_of_reads isBlank rest noStart noInside readHead split
  have guarded : (Text.words head).any isStatementKeyword = true :=
    List.any_eq_true.mpr ⟨_, member, leads⟩
  simp only [guarded, Bool.or_true, if_true]
  exact .none

theorem Cpp.plainVariables_avoidsOn (unlisted : isAmong Cpp.qualifiers keyword.text = false) :
    Cpp.plainVariables.AvoidsOn kinds (keyword.text ++ blank :: rest) := by
  intro context found isMatch
  refine .bindKept fun dataType held => .bind fun name => .bind fun tail => ?_
  have skips := keyword.skips_leadingWords isBlank rest Cpp.qualifiers (by decide) unlisted
  have noType : wordOr [':'] blank = false := wordOr_eq_false_of_isBlank (by decide) isBlank
  have noAngle := Text.ne_of_isBlank (d := '<') isBlank (by decide)
  have noMark : ∀ c, Text.isWord c = true → oneOf ['*', '&'] c = false :=
    fun _ => oneOf_eq_false (by decide)
  have isWordAngle : Text.isWord '<' = false := by decide
  have same : dataType = keyword.text := by
    refine keyword.eq_of_leadingPart isBlank rest
      (fun _ _ _ _ reads => reads.assoc.assoc.assoc.assoc.assoc.assoc) skips trivial
      (by simp) (by simp) (by simp) (by simp [noType, noAngle, isWordAngle]) (by simp) ?_
        isMatch held
    intro c word
    simp [noMark c word, Text.isBlank_eq_false_of_isWord word]
  simp only [same, leads, Bool.true_or, if_true]
  exact .none

theorem Cpp.function_avoidsOn (other : ¬"template".toList <+: keyword.text) :
    Cpp.function.AvoidsOn kinds (keyword.text ++ blank :: rest) := by
  intro context found isMatch
  refine .bindKept fun head held => .bind fun name => .bind fun parameters => ?_
  have skips : (lineStart ++ Cpp.templateHead).Skips (keyword.text ++ blank :: rest) := by
    have unread := keyword.unread_text isBlank rest (by decide) other
    exact (skips_lineStart _).append
      (((((unread.append _).append _).append _).append _).append _).skips_optional
  have noStart := isAsciiNameStart_eq_false_of_isBlank isBlank
  have noInside : wordOr [':', '<', '>', ',', '*', '&'] blank = false :=
    wordOr_eq_false_of_isBlank (by decide) isBlank
  obtain ⟨finish, others, between, inside, kept, split, readHead, _⟩ :=
    isMatch.leadingPart
      (fun _ _ _ _ reads => reads.assoc.assoc.assoc.assoc.assoc.assoc.assoc.assoc.assoc.assoc)
      skips trivial (by simp [Cpp.templateHead]) (by simp)
      (by simp [Cpp.bodyOrSemicolon, Cpp.openBody, Cpp.memberName, Cpp.qualification]) held
  have member := keyword.mem_words_of_reads isBlank rest noStart noInside readHead split
  have guarded : (Text.words head).any isStatementKeyword = true :=
    List.any_eq_true.mpr ⟨_, member, leads⟩
  simp only [guarded, Bool.true_or, if_true]
  exact .none

theorem Java.method_avoidsOn (unlisted : isAmong Java.methodModifiers keyword.text = false) :
    Java.method.AvoidsOn kinds (keyword.text ++ blank :: rest) := by
  intro context found isMatch
  refine .bindKept fun dataType held => .bind fun name => ?_
  have skips : (lineStart ++ Java.leadingWords Java.methodModifiers ++
      optional (char '<' ++ many1 (noneOf ['>']) ++ char '>' ++ blanks1)).Skips
        (keyword.text ++ blank :: rest) := by
    have unread : (char '<').Unread (keyword.text ++ blank :: rest) :=
      keyword.unread_char (by decide) _
    have modifiers :=
      keyword.skips_leadingWords isBlank rest Java.methodModifiers (by decide) unlisted
    exact modifiers.append (((unread.append _).append _).append _).skips_optional
  have same : dataType = keyword.text :=
    keyword.eq_of_spacedPart isBlank rest (fun _ _ _ _ reads => reads.assoc.assoc.assoc.assoc)
      skips trivial
      (by simp [Java.leadingWords]) (by simp [Java.typeName, Java.brackets]) (by simp)
        (Java.typeName_unmet isBlank) isMatch held
  simp only [same, leads, Bool.true_or, if_true]
  exact .none

theorem Java.plainVariables_avoidsOn
    (unlisted : isAmong Java.variableModifiers keyword.text = false) :
    Java.plainVariables.AvoidsOn kinds (keyword.text ++ blank :: rest) := by
  intro context found isMatch
  refine .bindKept fun dataType held => .bind fun name => ?_
  have skips := keyword.skips_leadingWords isBlank rest Java.variableModifiers (by decide) unlisted
  have same : dataType = keyword.text :=
    keyword.eq_of_spacedPart isBlank rest
      (fun _ _ _ _ reads => reads.assoc.assoc.assoc.assoc.assoc.assoc) skips trivial
      (by simp) (by simp [Java.typeName, Java.brackets]) (by simp [Java.brackets])
        (Java.typeName_unmet isBlank) isMatch held
  simp only [same, leads, Bool.true_or, if_true]
  exact .none

theorem CSharp.method_avoidsOn (unlisted : isAmong CSharp.methodModifiers keyword.text = false) :
    CSharp.method.AvoidsOn kinds (keyword.text ++ blank :: rest) := by
  intro context found isMatch
  refine .bindKept fun dataType held => .bind fun name => ?_
  have skips := keyword.skips_leadingWords isBlank rest CSharp.methodModifiers (by decide) unlisted
  have same : dataType = keyword.text :=
    keyword.eq_of_spacedPart isBlank rest
      (fun _ _ _ _ reads => reads.assoc.assoc.assoc.assoc.assoc.assoc) skips trivial
      (by simp) (by simp [CSharp.typeName]) (by simp) (CSharp.typeName_unmet isBlank) isMatch held
  simp only [same, leads, Bool.true_or, if_true]
  exact .none

theorem CSharp.property_avoidsOn
    (unlisted : isAmong CSharp.propertyModifiers keyword.text = false) :
    CSharp.property.AvoidsOn kinds (keyword.text ++ blank :: rest) := by
  intro context found isMatch
  refine .bindKept fun dataType held => .bind fun name => ?_
  have skips :=
    keyword.skips_leadingWords isBlank rest CSharp.propertyModifiers (by decide) unlisted
  have same : dataType = keyword.text :=
    keyword.eq_of_spacedPart isBlank rest (fun _ _ _ _ reads => reads.assoc.assoc.assoc.assoc)
      skips trivial
      (by simp) (by simp [CSharp.typeName]) (by simp) (CSharp.typeName_unmet isBlank) isMatch held
  simp only [same, leads, Bool.or_true, Bool.true_or, if_true]
  exact .none

theorem CSharp.plainVariables_avoidsOn
    (unlisted : isAmong CSharp.variableModifiers keyword.text = false) :
    CSharp.plainVariables.AvoidsOn kinds (keyword.text ++ blank :: rest) := by
  intro context found isMatch
  refine .bindKept fun dataType held => .bind fun name => ?_
  have skips :=
    keyword.skips_leadingWords isBlank rest CSharp.variableModifiers (by decide) unlisted
  have same : dataType = keyword.text :=
    keyword.eq_of_spacedPart isBlank rest (fun _ _ _ _ reads => reads.assoc.assoc.assoc.assoc)
      skips trivial
      (by simp) (by simp [CSharp.typeName]) (by simp) (CSharp.typeName_unmet isBlank) isMatch held
  simp only [same, leads, Bool.true_or, if_true]
  exact .none

theorem C.avoidsOn (unlisted : isAmong C.qualifiers keyword.text = false) :
    ∀ rule ∈ C.table.cascade, rule.AvoidsOn codeKinds (keyword.text ++ blank :: rest) := by
  have others :=
    fun rule listed => (C.avoids_codeKinds rule listed).on (keyword.text ++ blank :: rest)
  simp only [List.forall_mem_cons] at others
  obtain ⟨typeDefinition, typeDefinitionEnd, structures, _⟩ := others
  simp only [C.table, List.forall_mem_cons]
  exact ⟨macroDefinition_avoidsOn rest _, C.function_avoidsOn rest _ isBlank leads, typeDefinition,
    typeDefinitionEnd, structures, C.plainVariables_avoidsOn rest _ isBlank leads unlisted, by simp⟩

theorem Cpp.avoidsOn (unlisted : isAmong Cpp.qualifiers keyword.text = false)
    (other : ¬"template".toList <+: keyword.text) :
    ∀ rule ∈ Cpp.table.cascade, rule.AvoidsOn codeKinds (keyword.text ++ blank :: rest) := by
  have others :=
    fun rule listed => (Cpp.avoids_codeKinds rule listed).on (keyword.text ++ blank :: rest)
  simp only [List.forall_mem_cons] at others
  obtain ⟨namespaces, classes, constructors, _⟩ := others
  simp only [Cpp.table, List.forall_mem_cons]
  exact ⟨macroDefinition_avoidsOn rest _, namespaces, classes, constructors,
    Cpp.function_avoidsOn rest _ isBlank leads other,
    Cpp.plainVariables_avoidsOn rest _ isBlank leads unlisted, by simp⟩

theorem Java.avoidsOn (noMethod : isAmong Java.methodModifiers keyword.text = false)
    (noVariable : isAmong Java.variableModifiers keyword.text = false) :
    ∀ rule ∈ Java.table.cascade, rule.AvoidsOn codeKinds (keyword.text ++ blank :: rest) := by
  have others :=
    fun rule listed => (Java.avoids_codeKinds rule listed).on (keyword.text ++ blank :: rest)
  simp only [List.forall_mem_cons] at others
  obtain ⟨package, imports, classes, bareConstructor, _⟩ := others
  simp only [Java.table, List.forall_mem_cons]
  exact ⟨package, imports, classes, Java.method_avoidsOn rest _ isBlank leads noMethod,
    bareConstructor, Java.plainVariables_avoidsOn rest _ isBlank leads noVariable, by simp⟩

theorem CSharp.avoidsOn (noMethod : isAmong CSharp.methodModifiers keyword.text = false)
    (noProperty : isAmong CSharp.propertyModifiers keyword.text = false)
    (noVariable : isAmong CSharp.variableModifiers keyword.text = false) :
    ∀ rule ∈ CSharp.table.cascade, rule.AvoidsOn codeKinds (keyword.text ++ blank :: rest) := by
  have others :=
    fun rule listed => (CSharp.avoids_codeKinds rule listed).on (keyword.text ++ blank :: rest)
  simp only [List.forall_mem_cons] at others
  obtain ⟨usings, namespaces, classes, bareConstructor, _⟩ := others
  simp only [CSharp.table, List.forall_mem_cons]
  exact ⟨usings, namespaces, classes, CSharp.method_avoidsOn rest _ isBlank leads noMethod,
    bareConstructor, CSharp.property_avoidsOn rest _ isBlank leads noProperty,
      CSharp.plainVariables_avoidsOn rest _ isBlank leads noVariable,
    by simp⟩

end Statement

end Rules

/-!
## Lines
-/

/-- The words that start a statement of control flow, or an expression with an effect. In C# `new`
is left out, as it can stand in front of a declaration there. -/
def Language.controlWords (language : Language) : List String :=
  ["return", "delete", "throw", "else", "case", "goto", "break", "continue", "if", "while", "for",
    "foreach", "switch", "catch",
   "do", "sizeof", "yield", "await"] ++ if language = .csharp then [] else ["new"]

theorem Language.exists_controlWord {language : Language} {word : String}
    (listed : word ∈ language.controlWords) :
    ∃ keyword : AsciiWord, keyword.text = word.toList ∧ isStatementKeyword keyword.text = true := by
  have plain : ∀ word ∈ language.controlWords,
      word.toList ≠ [] ∧ (∀ c ∈ word.toList, isAsciiWord c = true) ∧
        isStatementKeyword word.toList = true := by
    cases language <;> decide
  obtain ⟨nonempty, ascii, leads⟩ := plain word listed
  exact ⟨⟨word.toList, nonempty, ascii⟩, rfl, leads⟩

theorem Language.avoidsOn_controlWord {language : Language}
    (member : language ∈ [.c, .cpp, .java, .csharp]) {word : String}
    (listed : word ∈ language.controlWords) {blank : Char} (isBlank : Text.isBlank blank = true)
    (rest : List Char) :
    ∀ rule ∈ language.rules.cascade ++ language.rules.checks,
      rule.AvoidsOn codeKinds (word.toList ++ blank :: rest) := by
  obtain ⟨keyword, spelled, leads⟩ := exists_controlWord listed
  rw [← spelled]
  simp only [List.mem_cons, List.not_mem_nil, or_false] at member
  -- No such word can stand in front of a type, so that all of them are read as one.
  rcases member with rfl | rfl | rfl | rfl
  · have unlisted :
        ∀ word ∈ Language.c.controlWords, isAmong Rules.C.qualifiers word.toList = false := by
      decide
    exact Rules.C.avoidsOn rest isBlank leads (spelled ▸ unlisted word listed)
  · have unlisted : ∀ word ∈ Language.cpp.controlWords,
        isAmong Rules.Cpp.qualifiers word.toList = false ∧ ¬"template".toList <+: word.toList := by
          decide
    obtain ⟨noQualifier, noTemplate⟩ := unlisted word listed
    exact Rules.Cpp.avoidsOn rest isBlank leads (spelled ▸ noQualifier) (spelled ▸ noTemplate)
  · have unlisted : ∀ word ∈ Language.java.controlWords,
        isAmong Rules.Java.methodModifiers word.toList = false ∧
          isAmong Rules.Java.variableModifiers word.toList = false := by
      decide
    obtain ⟨noMethod, noVariable⟩ := unlisted word listed
    exact Rules.Java.avoidsOn rest isBlank leads (spelled ▸ noMethod) (spelled ▸ noVariable)
  · have unlisted : ∀ word ∈ Language.csharp.controlWords,
        isAmong Rules.CSharp.methodModifiers word.toList = false ∧
          isAmong Rules.CSharp.propertyModifiers word.toList = false ∧
          isAmong Rules.CSharp.variableModifiers word.toList = false := by decide
    obtain ⟨noMethod, noProperty, noVariable⟩ := unlisted word listed
    exact Rules.CSharp.avoidsOn rest isBlank leads (spelled ▸ noMethod) (spelled ▸ noProperty)
      (spelled ▸ noVariable)

namespace Context

/-- The symbols of one state are those of another and then some of which none is of one of the
kinds. -/
def AddsOnlyOthers (kinds : List Kind) (before after : Context) : Prop :=
  ∃ found, after.symbols = before.symbols ++ found ∧ ∀ symbol ∈ found, symbol.kind ∉ kinds

theorem AddsOnlyOthers.apply {kinds : List Kind} {before after : Context}
    (adds : AddsOnlyOthers kinds before after) {effect : Effect} (avoids : effect.Avoids kinds)
    (language : Language) (number : Nat) :
    AddsOnlyOthers kinds before (after.apply language number effect) := by
  obtain ⟨found, symbols, others⟩ := adds
  refine ⟨found ++ effect.declarations.map (·.toSymbol language number), ?_,
    List.forall_mem_append.mpr ⟨others, ?_⟩⟩
  · rw [Context.apply, symbols, List.append_assoc]
  · intro symbol member
    obtain ⟨declaration, declared, rfl⟩ := List.mem_map.mp member
    exact avoids declaration declared

private theorem step_addsOnlyOthers {kinds : List Kind} {language : Language} {line : Line}
    (avoids : ∀ rule ∈ language.rules.cascade ++ language.rules.checks,
      rule.AvoidsOn kinds line.text)
    (context : Context) :
    AddsOnlyOthers kinds context (context.step language line) := by
  refine step_preserves (AddsOnlyOthers kinds context) ?_ (fun _ adds => adds)
    ⟨[], by simp, by simp⟩
  intro rule listed before found isMatch adds
  exact (avoids rule listed before found isMatch).imp fun _ avoids =>
    adds.apply avoids language line.number

/-- Control flow is no declaration. In C, C++, Java and C#, whatever the state and whatever comes
after the white space behind its first word, a line that starts with a word of control flow adds no
function, method, variable, constant or property. -/
theorem control_flow_not_declared {language : Language}
    (member : language ∈ [.c, .cpp, .java, .csharp]) {word : String}
    (listed : word ∈ language.controlWords) {blank : Char} (isBlank : Text.isBlank blank = true)
    (rest : List Char) (context : Context) (number : Nat) :
    ∃ found, (context.step language ⟨number, word.toList ++ blank :: rest⟩).symbols =
      context.symbols ++ found ∧
      ∀ symbol ∈ found, symbol.kind ∉ [.function, .method, .variable, .constant, .property] :=
  step_addsOnlyOthers (Language.avoidsOn_controlWord member listed isBlank rest) context

/-- A statement of the shape of a variable with a value, in the body of a method. -/
theorem return_not_declared :
    let context := run .java [⟨1, "class A \x7b".toList⟩, ⟨2, "int f() \x7b".toList⟩]
    "return" ∈ Language.java.controlWords ∧ Text.isBlank '\t' = true ∧
      ∃ found, (context.step .java ⟨3, "return\tx = y;".toList⟩).symbols =
        context.symbols ++ found ∧
        ∀ symbol ∈ found, symbol.kind ∉
          [Kind.function, .method, .variable, .constant, .property] := by
  have listed : "return" ∈ Language.java.controlWords := by decide
  exact ⟨listed, by decide, control_flow_not_declared (by decide) listed (by decide)
    "x = y;".toList _ 3⟩

end Context

end Symtab
