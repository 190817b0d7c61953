import Symtab.Proofs.Matching

/-!
# Which reading is preferred

A pattern is blocked at a place where none of its readings starts, which the characters that follow
often decide. A reading is the preferred one if all that is tried before it is blocked, so a match
can be followed piece by piece along the line.
-/

set_option autoImplicit false

namespace Symtab.Pattern

theorem read_append {α : Type} (first second : Pattern) (place : Cursor) (captures : Captures)
    (next : Continuation α) :
    (first ++ second).read place captures next =
      first.read place captures fun later kept => second.read later kept next := rfl

theorem read_orElse {α : Type} (first second : Pattern) (place : Cursor) (captures : Captures)
    (next : Continuation α) :
    (first <|> second).read place captures next =
      (first.read place captures next).orElse fun _ => second.read place captures next := rfl

/-!
## Blocked patterns
-/

/-- The pattern cannot be read from the place, whatever is to follow. -/
def Blocked (pattern : Pattern) (place : Cursor) : Prop :=
  ∀ (α : Type) (captures : Captures) (next : Continuation α),
    pattern.read place captures next = none

theorem blocked_of_not_reads {pattern : Pattern} {before after : List Char}
    (unread : ∀ text rest captures kept, after = text ++ rest →
      ¬pattern.Reads before text rest captures kept) :
    pattern.Blocked ⟨before, after⟩ := by
  intro _ captures next
  cases success : pattern.read ⟨before, after⟩ captures next with
  | none => rfl
  | some result =>
    obtain ⟨text, rest, kept, split, reads, _⟩ := readsOnly_read pattern _ _ _ _ success
    exact absurd reads (unread text rest captures kept split)

theorem Blocked.capture {piece : Pattern} {place : Cursor} (blocked : piece.Blocked place)
    (slot : Slot) :
    (capture slot piece).Blocked place :=
  fun _ captures _ => blocked _ captures _

theorem Blocked.append {first : Pattern} {place : Cursor} (blocked : first.Blocked place)
    (second : Pattern) :
    (first ++ second).Blocked place :=
  fun _ captures _ => blocked _ captures _

theorem Blocked.assoc {first second third : Pattern} {place : Cursor}
    (blocked : (first ++ second ++ third).Blocked place) :
    (first ++ (second ++ third)).Blocked place :=
  blocked

theorem Blocked.lineStartThen {follow : Pattern} {place : Cursor} (blocked : follow.Blocked place) :
    (lineStart ++ follow).Blocked place := by
  intro _ captures next
  rw [read_append, Pattern.read]
  split
  · exact blocked _ captures next
  · rfl

theorem Blocked.optionalThen {piece follow : Pattern} {place : Cursor}
    (absent : piece.Blocked place) (blocked : follow.Blocked place) :
    (optional piece ++ follow).Blocked place := by
  intro _ captures next
  rw [read_append, optional, Pattern.read, absent]
  exact blocked _ captures next

/-- A sequence is blocked if what comes second is blocked after every reading of what comes
first. -/
theorem blocked_append {first second : Pattern} {before after : List Char}
    (each : ∀ text rest captures kept, after = text ++ rest →
      first.Reads before text rest captures kept →
      second.Blocked ⟨text.reverse ++ before, rest⟩) :
        (first ++ second).Blocked ⟨before, after⟩ := by
  intro _ captures next
  cases success : first.read ⟨before, after⟩ captures fun later kept =>
    second.read later kept next with
  | none => exact success
  | some result =>
    obtain ⟨text, rest, kept, split, reads, reached⟩ := readsOnly_read first _ _ _ _ success
    rw [each text rest captures kept split reads] at reached
    cases reached

/-- A repetition is blocked with what follows it if what follows is blocked before and after one
round, and a second round is blocked too. -/
theorem blocked_repeatedThen {piece follow : Pattern} {before after : List Char}
    (stop : follow.Blocked ⟨before, after⟩)
    (once : ∀ text rest captures kept, after = text ++ rest →
      piece.Reads before text rest captures kept →
      piece.Blocked ⟨text.reverse ++ before, rest⟩ ∧
      follow.Blocked ⟨text.reverse ++ before, rest⟩) :
    (repeated piece ++ follow).Blocked ⟨before, after⟩ := by
  intro α captures next
  have noRound :
      ∀ (limit : List Char) (place : Cursor) (kept : Captures), piece.Blocked place →
      follow.Blocked place →
      iterate (fun place captures next => piece.read place captures next) limit place kept
        (fun later kept => follow.read later kept next) = none := by
    intro limit place kept pieceBlocked followBlocked
    cases limit with
    | nil => exact followBlocked _ kept next
    | cons _ limit =>
      rw [iterate, pieceBlocked]
      exact followBlocked _ kept next
  rw [read_append, Pattern.read]
  cases after with
  | nil => exact stop _ captures next
  | cons c others =>
    rw [iterate]
    cases success : piece.read ⟨before, c :: others⟩ captures fun later kept =>
        iterate (fun place captures next => piece.read place captures next) others later kept
          (fun later kept => follow.read later kept next) with
    | none => exact stop _ captures next
    | some result =>
      obtain ⟨text, rest, kept, split, reads, reached⟩ := readsOnly_read piece _ _ _ _ success
      obtain ⟨pieceBlocked, followBlocked⟩ := once text rest captures kept split reads
      rw [noRound _ _ _ pieceBlocked followBlocked] at reached
      cases reached

/-- The pattern may read nothing but skipped characters. -/
@[simp]
def Passes (skipped : Char → Bool) : Pattern → Prop
  | .empty | .many _ | .few _ | .repeated _ | .lineStart | .lineEnd | .wordEdge => True
  | .literal written => written.all skipped = true
  | .one inClass => ∃ c, inClass c = true ∧ skipped c = true
  | .sequence first second => first.Passes skipped ∧ second.Passes skipped
  | .choice first second => first.Passes skipped ∨ second.Passes skipped
  | .capture _ piece => piece.Passes skipped

/-- The character may be the first that the pattern reads after skipped ones. -/
@[simp]
def Meets (skipped : Char → Bool) (c : Char) : Pattern → Prop
  | .empty | .lineStart | .lineEnd | .wordEdge => False
  | .literal written => written.find? (!skipped ·) = some c
  | .one inClass | .many inClass | .few inClass => inClass c = true
  | .sequence first second => first.Meets skipped c ∨ first.Passes skipped ∧ second.Meets skipped c
  | .choice first second => first.Meets skipped c ∨ second.Meets skipped c
  | .repeated piece | .capture _ piece => piece.Meets skipped c

section Meets

variable {skipped : Char → Bool} {c : Char}

@[simp] theorem passes_append {first second : Pattern} :
    (first ++ second).Passes skipped ↔ first.Passes skipped ∧ second.Passes skipped := Iff.rfl

@[simp] theorem passes_orElse {first second : Pattern} :
    (first <|> second).Passes skipped ↔ first.Passes skipped ∨ second.Passes skipped := Iff.rfl

@[simp] theorem meets_append {first second : Pattern} :
    (first ++ second).Meets skipped c ↔
      first.Meets skipped c ∨ first.Passes skipped ∧ second.Meets skipped c := Iff.rfl

@[simp] theorem meets_orElse {first second : Pattern} :
    (first <|> second).Meets skipped c ↔ first.Meets skipped c ∨ second.Meets skipped c := Iff.rfl

@[simp] theorem passes_optional (piece : Pattern) : (optional piece).Passes skipped := .inr trivial

@[simp] theorem meets_optional {piece : Pattern} :
    (optional piece).Meets skipped c ↔ piece.Meets skipped c := by
  simp [optional]

@[simp] theorem passes_text {written : String} :
    (text written).Passes skipped ↔ written.toList.all skipped = true := Iff.rfl

@[simp] theorem meets_text {written : String} :
    (text written).Meets skipped c ↔ written.toList.find? (!skipped ·) = some c := Iff.rfl

@[simp] theorem passes_char {d : Char} : (char d).Passes skipped ↔ skipped d = true := by
  simp [char]

@[simp] theorem meets_char {d : Char} : (char d).Meets skipped c ↔ skipped d = false ∧ d = c := by
  cases isSkipped : skipped d with
  | false => simp [char, isSkipped]
  | true => simp [char, isSkipped]

@[simp] theorem passes_many1 {inClass : Char → Bool} :
    (many1 inClass).Passes skipped ↔ ∃ c, inClass c = true ∧ skipped c = true := by
  simp [many1]

@[simp] theorem meets_many1 {inClass : Char → Bool} :
    (many1 inClass).Meets skipped c ↔ inClass c = true := by
  simp [many1]

@[simp] theorem passes_blanks : blanks.Passes skipped := trivial

@[simp] theorem meets_blanks : blanks.Meets skipped c ↔ Text.isBlank c = true := Iff.rfl

@[simp] theorem passes_blanks1 :
    blanks1.Passes skipped ↔ ∃ c, Text.isBlank c = true ∧ skipped c = true := passes_many1

@[simp] theorem meets_blanks1 : blanks1.Meets skipped c ↔ Text.isBlank c = true := meets_many1

@[simp] theorem meets_word : word.Meets skipped c ↔ Text.isWord c = true := meets_many1

private theorem find?_eq_some_of_class {inClass : Char → Bool} {text : List Char}
    (inside : ∀ d ∈ text, inClass d = true) :
    text.find? (!skipped ·) = none ∨ ∃ d, text.find? (!skipped ·) = some d ∧ inClass d = true := by
  cases first : text.find? (!skipped ·) with
  | none => exact .inl rfl
  | some d => exact .inr ⟨d, rfl, inside d (List.mem_of_find?_eq_some first)⟩

/-- A reading keeps to skipped characters, or the first other character that it reads is one that
the pattern may meet. -/
theorem Reads.meets {pattern : Pattern} {before text rest : List Char} {captures kept : Captures}
    (reads : pattern.Reads before text rest captures kept) (skipped : Char → Bool) :
    (text.find? (!skipped ·) = none ∧ pattern.Passes skipped) ∨
      ∃ c, text.find? (!skipped ·) = some c ∧ pattern.Meets skipped c := by
  induction pattern generalizing before text rest captures kept with
  | empty =>
    obtain ⟨rfl, _⟩ := reads
    exact .inl ⟨rfl, trivial⟩
  | literal written =>
    obtain ⟨rfl, _⟩ := reads
    cases first : text.find? (!skipped ·) with
    | none => exact .inl ⟨rfl, by simpa [Passes] using first⟩
    | some d => exact .inr ⟨d, rfl, first⟩
  | one inClass =>
    obtain ⟨⟨d, rfl, belongs⟩, _⟩ := reads
    cases isSkipped : skipped d with
    | true => exact .inl ⟨by simp [isSkipped], d, belongs, isSkipped⟩
    | false => exact .inr ⟨d, by simp [isSkipped], belongs⟩
  | many inClass | few inClass =>
    exact (find?_eq_some_of_class reads.1).imp_left fun allSkipped => ⟨allSkipped, trivial⟩
  | sequence first second firstMeets secondMeets =>
    obtain ⟨start, finish, between, rfl, readFirst, readSecond⟩ := reads
    rw [List.find?_append]
    rcases firstMeets readFirst with ⟨allSkipped, passes⟩ | ⟨d, found, meets⟩
    · rw [allSkipped, Option.none_or]
      rcases secondMeets readSecond with ⟨restSkipped, secondPasses⟩ | ⟨d, found, meets⟩
      · exact .inl ⟨restSkipped, passes, secondPasses⟩
      · exact .inr ⟨d, found, .inr ⟨passes, meets⟩⟩
    · exact .inr ⟨d, by rw [found, Option.some_or], .inl meets⟩
  | choice first second firstMeets secondMeets =>
    rcases reads with readFirst | readSecond
    · exact (firstMeets readFirst).imp (fun ⟨allSkipped, passes⟩ => ⟨allSkipped, .inl passes⟩)
        fun ⟨d, found, meets⟩ => ⟨d, found, .inl meets⟩
    · exact (secondMeets readSecond).imp (fun ⟨allSkipped, passes⟩ => ⟨allSkipped, .inr passes⟩)
        fun ⟨d, found, meets⟩ => ⟨d, found, .inr meets⟩
  | repeated piece pieceMeets =>
    induction reads with
    | stop => exact .inl ⟨rfl, trivial⟩
    | more first _ othersMeet =>
      rw [List.find?_append]
      rcases pieceMeets first with ⟨allSkipped, _⟩ | ⟨d, found, meets⟩
      · rw [allSkipped, Option.none_or]
        exact othersMeet
      · exact .inr ⟨d, by rw [found, Option.some_or], meets⟩
  | capture slot piece pieceMeets =>
    obtain ⟨inside, readPiece, _⟩ := reads
    exact pieceMeets readPiece
  | lineStart | lineEnd | wordEdge =>
    obtain ⟨⟨rfl, _⟩, _⟩ := reads
    exact .inl ⟨rfl, trivial⟩

/-- With nothing skipped: a pattern that cannot do with nothing starts with a character that it may
meet. -/
theorem Reads.exists_first {pattern : Pattern} (stuck : ¬pattern.Passes fun _ => false)
    {before text rest : List Char} {captures kept : Captures}
    (reads : pattern.Reads before text rest captures kept) :
    ∃ c others, text = c :: others ∧ pattern.Meets (fun _ => false) c := by
  rcases reads.meets fun _ => false with ⟨_, passes⟩ | ⟨d, found, meets⟩
  · exact absurd passes stuck
  · cases text with
    | nil => cases found
    | cons c others =>
      simp only [Bool.not_false, List.find?_cons_of_pos, Option.some.injEq] at found
      exact ⟨c, others, rfl, found ▸ meets⟩

/-- A pattern that cannot do with skipped characters is blocked in front of a character that it
cannot meet after them. -/
theorem blocked_of_not_meets {pattern : Pattern} (stuck : ¬pattern.Passes skipped)
    {before after : List Char} (ahead : after.find? (!skipped ·) = some c)
    (unmet : ¬pattern.Meets skipped c) : pattern.Blocked ⟨before, after⟩ := by
  refine blocked_of_not_reads fun text rest captures kept split reads => ?_
  rcases reads.meets skipped with ⟨_, passes⟩ | ⟨d, found, meets⟩
  · exact stuck passes
  · rw [split, List.find?_append, found, Option.some_or] at ahead
    cases ahead
    exact unmet meets

/-- With nothing skipped: the next character decides. -/
theorem blocked_of_next {pattern : Pattern} (stuck : ¬pattern.Passes fun _ => false)
    (unmet : ¬pattern.Meets (fun _ => false) c) (before rest : List Char) :
    pattern.Blocked ⟨before, c :: rest⟩ :=
  blocked_of_not_meets stuck (by simp) unmet

end Meets

/-- A pattern that requires a character is blocked in front of a text without one. -/
theorem blocked_of_requires {property : Char → Prop} {pattern : Pattern}
    (requires : pattern.Requires property) {before after : List Char}
    (absent : ∀ c ∈ after, ¬property c) : pattern.Blocked ⟨before, after⟩ := by
  refine blocked_of_not_reads fun text rest captures kept split reads => ?_
  obtain ⟨c, member, holds⟩ := reads.requires requires
  exact absent c (by rw [split]; exact List.mem_append_left rest member) holds

theorem blocked_of_not_mem {c : Char} {pattern : Pattern} (requires : pattern.Requires (· = c))
    {before after : List Char} (absent : c ∉ after) : pattern.Blocked ⟨before, after⟩ :=
  blocked_of_requires requires fun _ member same => absent (same ▸ member)

/-- In front of the end of a line, a pattern has to go on with the next character. -/
theorem blocked_before_lineEnd {pattern : Pattern} {c : Char}
    (unmet : ¬pattern.Meets (fun _ => false) c) (before rest : List Char) :
    (pattern ++ lineEnd).Blocked ⟨before, c :: rest⟩ := by
  refine blocked_of_not_reads fun text others captures kept split reads => ?_
  obtain ⟨start, _, _, rfl, readPattern, ⟨⟨rfl, rfl⟩, _⟩⟩ := reads
  rw [List.append_nil, List.append_nil] at split
  subst split
  rcases readPattern.meets fun _ => false with ⟨allSkipped, _⟩ | ⟨d, found, meets⟩
  · simp at allSkipped
  · simp only [Bool.not_false, List.find?_cons_of_pos, Option.some.injEq] at found
    subst found
    exact unmet meets

/-!
## Patterns that hold to the start of the line
-/

/-- The pattern can only be read from the start of a line. -/
def Anchored : Pattern → Prop
  | .lineStart => True
  | .sequence first _ => first.Anchored
  | .empty | .literal _ | .one _ | .many _ | .few _ | .choice _ _ | .repeated _ | .capture
    _ _ | .lineEnd | .wordEdge => False

theorem Reads.before_eq_nil {pattern : Pattern} {before text rest : List Char}
    {captures kept : Captures} (reads : pattern.Reads before text rest captures kept)
    (anchored : pattern.Anchored) : before = [] := by
  induction pattern generalizing before text rest captures kept with
  | lineStart => exact reads.1.2
  | sequence first second firstAnchored _ =>
    obtain ⟨start, finish, between, _, readFirst, _⟩ := reads
    exact firstAnchored readFirst anchored
  | empty | literal | one | many | few | choice | repeated | capture | lineEnd | wordEdge =>
    exact anchored.elim

theorem Anchored.findFrom?_eq_none {pattern : Pattern} (anchored : pattern.Anchored) (c : Char)
    (before after : List Char) :
    pattern.findFrom? (c :: before) after = none := by
  have blocked : ∀ (d : Char) (before after : List Char), pattern.Blocked ⟨d :: before, after⟩ := by
    intro d before after
    refine blocked_of_not_reads fun text rest captures kept _ reads => ?_
    exact absurd (reads.before_eq_nil anchored) (List.cons_ne_nil d before)
  induction after generalizing c before with
  | nil => exact blocked c before [] _ _ _
  | cons d rest ih =>
    rw [findFrom?, matchAt?, blocked c before (d :: rest)]
    exact ih d (c :: before)

/-- A line holds no match of an anchored pattern that is blocked at its start. -/
theorem Anchored.find?_eq_none {pattern : Pattern} (anchored : pattern.Anchored) {line : List Char}
    (blocked : pattern.Blocked ⟨[], line⟩) : pattern.find? line = none := by
  cases line with
  | nil => exact blocked _ _ _
  | cons c rest =>
    rw [Pattern.find?, findFrom?, matchAt?, blocked]
    exact anchored.findFrom?_eq_none c [] rest

/-!
## Preferred readings
-/

/-- The reading that the pattern prefers at a place ends at a later one: what can go on from there
is the result. -/
def Takes (pattern : Pattern) (place later : Cursor) (captures kept : Captures) : Prop :=
  ∀ (α : Type) (next : Continuation α) (result : α),
    next later kept = some result → pattern.read place captures next = some result

section Takes

variable {first second piece : Pattern} {place later : Cursor} {captures kept : Captures}
    {inClass : Char → Bool}

theorem Takes.append {between : Cursor} {inside : Captures}
    (readFirst : first.Takes place between captures inside)
    (readSecond : second.Takes between later inside kept) :
    (first ++ second).Takes place later captures kept := by
  intro _ next result goesOn
  exact readFirst _ _ result (readSecond _ next result goesOn)

theorem Takes.assoc {third : Pattern}
    (read : (first ++ (second ++ third)).Takes place later captures kept) :
    (first ++ second ++ third).Takes place later captures kept :=
  read

theorem takes_literal (written before rest : List Char) (captures : Captures) :
    (literal written).Takes ⟨before, written ++ rest⟩ ⟨written.reverse ++ before, rest⟩ captures
      captures := by
  intro _ next result goesOn
  simpa [read, Cursor.skip?] using goesOn

theorem takes_one {c : Char} (belongs : inClass c = true) (before rest : List Char)
    (captures : Captures) :
    (one inClass).Takes ⟨before, c :: rest⟩ ⟨c :: before, rest⟩ captures captures := by
  intro _ next result goesOn
  simpa [read, belongs] using goesOn

theorem stops_before {c : Char} (outside : inClass c = false) (rest : List Char) :
    ∀ d ∈ (c :: rest).head?, inClass d = false := by
  simpa using outside

/-- The farthest place comes first. -/
theorem reachOver_append {run : List Char} (inside : ∀ c ∈ run, inClass c = true) {rest : List Char}
    (stops : ∀ c ∈ rest.head?, inClass c = false) (nearer : List Cursor) (before : List Char) :
    ∃ others, Cursor.reachOver inClass nearer before (run ++ rest) =
      ⟨run.reverse ++ before, rest⟩ :: others := by
  induction run generalizing nearer before with
  | nil =>
    cases rest with
    | nil => exact ⟨nearer, rfl⟩
    | cons c rest => exact ⟨nearer, by simp [Cursor.reachOver, stops c rfl]⟩
  | cons c run ih =>
    obtain ⟨belongs, insideRun⟩ := List.forall_mem_cons.mp inside
    obtain ⟨others, reached⟩ := ih insideRun (⟨before, c :: (run ++ rest)⟩ :: nearer) (c :: before)
    exact ⟨others, by simpa [Cursor.reachOver, belongs] using reached⟩

theorem takes_many {run : List Char} (inside : ∀ c ∈ run, inClass c = true) {rest : List Char}
    (stops : ∀ c ∈ rest.head?, inClass c = false) (before : List Char) (captures : Captures) :
    (many inClass).Takes ⟨before, run ++ rest⟩ ⟨run.reverse ++ before, rest⟩ captures captures := by
  intro _ next result goesOn
  obtain ⟨others, reached⟩ := reachOver_append inside stops [] before
  simp only [read, Cursor.reach, reached, List.findSome?_cons, goesOn]

theorem takes_many_nil {rest : List Char} (stops : ∀ c ∈ rest.head?, inClass c = false)
    (before : List Char) (captures : Captures) :
    (many inClass).Takes ⟨before, rest⟩ ⟨before, rest⟩ captures captures :=
  takes_many (List.forall_mem_nil _) stops before captures

theorem takes_blanks_nil {rest : List Char} (stops : ∀ c ∈ rest.head?, Text.isBlank c = false)
    (before : List Char) (captures : Captures) :
    blanks.Takes ⟨before, rest⟩ ⟨before, rest⟩ captures captures :=
  takes_many_nil stops before captures

theorem takes_blanks_space {rest : List Char} (stops : ∀ c ∈ rest.head?, Text.isBlank c = false)
    (before : List Char) (captures : Captures) :
    blanks.Takes ⟨before, ' ' :: rest⟩ ⟨' ' :: before, rest⟩ captures captures :=
  takes_many (List.forall_mem_singleton.mpr rfl) stops before captures

theorem takes_many1 {run : List Char} (nonempty : run ≠ []) (inside : ∀ c ∈ run, inClass c = true)
    {rest : List Char} (stops : ∀ c ∈ rest.head?, inClass c = false) (before : List Char)
    (captures : Captures) :
    (many1 inClass).Takes ⟨before, run ++ rest⟩ ⟨run.reverse ++ before, rest⟩ captures
      captures := by
  cases run with
  | nil => exact absurd rfl nonempty
  | cons c run =>
    obtain ⟨belongs, insideRun⟩ := List.forall_mem_cons.mp inside
    rw [List.reverse_cons, List.append_assoc]
    exact (takes_one belongs before (run ++ rest) captures).append
      (takes_many insideRun stops (c :: before) captures)

theorem takes_blanks1_space {rest : List Char} (stops : ∀ c ∈ rest.head?, Text.isBlank c = false)
    (before : List Char) (captures : Captures) :
    blanks1.Takes ⟨before, ' ' :: rest⟩ ⟨' ' :: before, rest⟩ captures captures :=
  takes_many1 (List.cons_ne_nil ' ' []) (List.forall_mem_singleton.mpr rfl) stops before captures

theorem Takes.firstChoice (readFirst : first.Takes place later captures kept) :
    (choice first second).Takes place later captures kept := by
  intro _ next result goesOn
  simp [read, readFirst _ next result goesOn]

theorem Takes.secondChoice (blocked : first.Blocked place)
    (readSecond : second.Takes place later captures kept) :
    (choice first second).Takes place later captures kept := by
  intro _ next result goesOn
  simp [read, blocked _ captures next, readSecond _ next result goesOn]

private theorem takes_empty (place : Cursor) (captures : Captures) :
    empty.Takes place place captures captures :=
  fun _ _ _ goesOn => goesOn

theorem takes_optional_nothing (blocked : piece.Blocked place) (captures : Captures) :
    (optional piece).Takes place place captures captures :=
  .secondChoice blocked (takes_empty place captures)

theorem Takes.optionally (read : piece.Takes place later captures kept) :
    (optional piece).Takes place later captures kept :=
  read.firstChoice

/-- An optional piece is read if it can be read together with what follows. -/
theorem Takes.optionalThen (read : (piece ++ second).Takes place later captures kept) :
    (optional piece ++ second).Takes place later captures kept := by
  intro _ next result goesOn
  have taken := read _ next result goesOn
  rw [read_append] at taken
  rw [read_append, optional, Pattern.read, taken]
  rfl

theorem Takes.firstChoiceThen {follow : Pattern}
    (read : (first ++ follow).Takes place later captures kept) :
    (choice first second ++ follow).Takes place later captures kept := by
  intro _ next result goesOn
  have taken := read _ next result goesOn
  rw [read_append] at taken
  rw [read_append, Pattern.read, taken]
  rfl

theorem Takes.secondChoiceThen {follow : Pattern} (blocked : (first ++ follow).Blocked place)
    (read : (second ++ follow).Takes place later captures kept) :
    (choice first second ++ follow).Takes place later captures kept := by
  intro _ next result goesOn
  have nowhere := blocked _ captures next
  rw [read_append] at nowhere
  rw [read_append, Pattern.read, nowhere]
  exact read _ next result goesOn

theorem takes_repeated_nothing (blocked : piece.Blocked place) (captures : Captures) :
    (repeated piece).Takes place place captures captures := by
  intro _ next result goesOn
  cases after : place.after with
  | nil => simpa [read, after, iterate] using goesOn
  | cons c rest => simpa [read, after, iterate, blocked _ captures] using goesOn

private theorem textUpTo_append (before later text rest : List Char) :
    Cursor.textUpTo ⟨before, text ++ rest⟩ ⟨later, rest⟩ = text := by
  simp [Cursor.textUpTo]

theorem Takes.capture {text rest before later : List Char}
    (read : piece.Takes ⟨before, text ++ rest⟩ ⟨later, rest⟩ captures kept) (slot : Slot) :
    (capture slot piece).Takes ⟨before, text ++ rest⟩ ⟨later, rest⟩ captures
      ((slot, text) :: kept) := by
  intro _ next result goesOn
  refine read _ _ result ?_
  rw [textUpTo_append]
  exact goesOn

theorem takes_lineStart (after : List Char) (captures : Captures) :
    lineStart.Takes ⟨[], after⟩ ⟨[], after⟩ captures captures :=
  fun _ _ _ goesOn => goesOn

theorem takes_lineEnd (before : List Char) (captures : Captures) :
    lineEnd.Takes ⟨before, []⟩ ⟨before, []⟩ captures captures :=
  fun _ _ _ goesOn => goesOn

theorem takes_wordEdge (edge : place.atWordEdge = true) (captures : Captures) :
    wordEdge.Takes place place captures captures := by
  intro _ next result goesOn
  simpa [read, edge] using goesOn

/-!
## Runs that are not taken as far as they could be
-/

/-- What is found last among the places of a run is the place before it. -/
theorem findSome?_reachOver {α : Type} (attempt : Cursor → Option α) {before after : List Char}
    (fails : ∀ taken left, after = taken ++ left → taken ≠ [] → (∀ c ∈ taken, inClass c = true) →
      attempt ⟨taken.reverse ++ before, left⟩ = none) (nearer : List Cursor) :
    (Cursor.reachOver inClass nearer before after).findSome? attempt =
      ((⟨before, after⟩ : Cursor) :: nearer).findSome? attempt := by
  induction after generalizing nearer before with
  | nil => rfl
  | cons c rest ih =>
    rw [Cursor.reachOver]
    split
    · next belongs =>
      have failsHere : attempt ⟨c :: before, rest⟩ = none :=
        fails [c] rest rfl (by simp) (by simpa using belongs)
      have failsLater :
          ∀ taken left, rest = taken ++ left → taken ≠ [] → (∀ d ∈ taken, inClass d = true) →
          attempt ⟨taken.reverse ++ c :: before, left⟩ = none := by
        intro taken left split _ inside
        simpa using fails (c :: taken) left (by rw [split]; rfl) (by simp)
          (by simpa [belongs] using inside)
      rw [ih failsLater, List.findSome?_cons, failsHere]
    · rfl

/-- A run gives back all that it could take if what follows is blocked after any of it. -/
theorem Takes.manyNothing {before after : List Char}
    (blocked : ∀ taken left, after = taken ++ left → taken ≠ [] → (∀ c ∈ taken, inClass c = true) →
      second.Blocked ⟨taken.reverse ++ before, left⟩)
    (readSecond : second.Takes ⟨before, after⟩ later captures kept) :
    (many inClass ++ second).Takes ⟨before, after⟩ later captures kept := by
  intro _ next result goesOn
  have fails : ∀ taken left, after = taken ++ left → taken ≠ [] → (∀ c ∈ taken, inClass c = true) →
      second.read ⟨taken.reverse ++ before, left⟩ captures next = none :=
    fun taken left split nonempty inside => blocked taken left split nonempty inside _ captures next
  have last := findSome?_reachOver (fun later => second.read later captures next) fails []
  rw [List.findSome?_cons, readSecond _ next result goesOn] at last
  exact last

theorem reachOver_eq_append (inClass : Char → Bool) (nearer : List Cursor)
    (before after : List Char) :
    Cursor.reachOver inClass nearer before after =
      Cursor.reachOver inClass [] before after ++ nearer := by
  induction after generalizing nearer before with
  | nil => rfl
  | cons c rest ih =>
    rw [Cursor.reachOver, Cursor.reachOver]
    split
    · rw [ih (⟨before, c :: rest⟩ :: nearer), ih [⟨before, c :: rest⟩], List.append_assoc]
      rfl
    · rfl

/-- A run that is as short as possible is the first after which the rest succeeds. -/
theorem read_few {α : Type} {next : Continuation α} {result : α} {run rest before : List Char}
    (inside : ∀ c ∈ run, inClass c = true)
    (fails : ∀ taken left, run = taken ++ left → left ≠ [] →
      next ⟨taken.reverse ++ before, left ++ rest⟩ captures = none)
    (goesOn : next ⟨run.reverse ++ before, rest⟩ captures = some result) :
    (few inClass).read ⟨before, run ++ rest⟩ captures next = some result := by
  induction run generalizing before with
  | nil =>
    cases rest with
    | nil => simpa [read, Cursor.reach, Cursor.reachOver] using goesOn
    | cons c rest =>
      have first : Cursor.reach inClass ⟨before, c :: rest⟩ =
          (if inClass c then Cursor.reachOver inClass [] (c :: before) rest else []) ++
            [⟨before, c :: rest⟩] := by
        rw [Cursor.reach, Cursor.reachOver]
        split
        · exact reachOver_eq_append inClass _ _ _
        · rfl
      simp only [List.reverse_nil, List.nil_append] at goesOn
      simp [read, first, goesOn]
  | cons c run ih =>
    obtain ⟨belongs, insideRun⟩ := List.forall_mem_cons.mp inside
    have failsHere : next ⟨before, c :: (run ++ rest)⟩ captures = none :=
      fails [] (c :: run) rfl (by simp)
    have later : (few inClass).read ⟨c :: before, run ++ rest⟩ captures next = some result := by
      refine ih insideRun ?_ (by simpa using goesOn)
      intro taken left split nonempty
      simpa using fails (c :: taken) left (by rw [split]; rfl) nonempty
    have first : Cursor.reach inClass ⟨before, c :: (run ++ rest)⟩ =
        Cursor.reach inClass ⟨c :: before, run ++ rest⟩ ++ [⟨before, c :: (run ++ rest)⟩] := by
      simp only [Cursor.reach, Cursor.reachOver, belongs, if_true]
      exact reachOver_eq_append inClass _ _ _
    simpa [read, first, List.findSome?_cons, failsHere] using later

/-- The whole of a run is kept if what follows is blocked inside it. -/
theorem Takes.captureFew1 {slot : Slot} {run rest before : List Char} (nonempty : run ≠ [])
    (inside : ∀ c ∈ run, inClass c = true)
    (blocked : ∀ taken left, run = taken ++ left → left ≠ [] →
      second.Blocked ⟨taken.reverse ++ before, left ++ rest⟩)
    (readSecond : second.Takes ⟨run.reverse ++ before, rest⟩ later ((slot, run) :: captures) kept) :
    (Pattern.capture slot (few1 inClass) ++ second).Takes ⟨before, run ++ rest⟩ later
      captures kept := by
  intro _ next result goesOn
  cases run with
  | nil => exact absurd rfl nonempty
  | cons c run =>
    obtain ⟨belongs, insideRun⟩ := List.forall_mem_cons.mp inside
    refine takes_one belongs before (run ++ rest) captures _
      (fun later kept => (few inClass).read later kept fun later kept =>
        second.read later ((slot, Cursor.textUpTo ⟨before, c :: (run ++ rest)⟩ later) :: kept) next)
          result ?_
    refine read_few insideRun ?_ ?_
    · intro taken left split nonemptyLeft
      have stuck := blocked (c :: taken) left (by rw [split]; rfl) nonemptyLeft
      rw [List.reverse_cons, List.append_assoc] at stuck
      exact stuck _ _ next
    · have kept := textUpTo_append before (run.reverse ++ c :: before) (c :: run) rest
      rw [List.cons_append] at kept
      rw [List.reverse_cons, List.append_assoc] at readSecond
      simp only [kept]
      exact readSecond _ next result goesOn

end Takes

/-!
## Preferred matches
-/

/-- The search in a line finds a match with the given kept texts. -/
def Finds (pattern : Pattern) (line : List Char) (kept : Captures) : Prop :=
  ∃ found, pattern.find? line = some found ∧ found.captures = kept

theorem Takes.matchAt? {pattern : Pattern} {place later : Cursor} {kept : Captures}
    (read : pattern.Takes place later [] kept) :
    pattern.matchAt? place = some ⟨place, later, kept⟩ :=
  read _ _ _ rfl

/-- A match right here comes before all others. -/
theorem Takes.findFrom? {pattern : Pattern} {before after : List Char} {later : Cursor}
    {kept : Captures} (read : pattern.Takes ⟨before, after⟩ later [] kept) :
    pattern.findFrom? before after = some ⟨⟨before, after⟩, later, kept⟩ := by
  have here := read.matchAt?
  cases after with
  | nil => exact here
  | cons c rest => simp [Pattern.findFrom?, here]

theorem Takes.find? {pattern : Pattern} {line : List Char} {later : Cursor} {kept : Captures}
    (read : pattern.Takes ⟨[], line⟩ later [] kept) :
    pattern.find? line = some ⟨⟨[], line⟩, later, kept⟩ :=
  read.findFrom?

theorem Takes.finds {pattern : Pattern} {line : List Char} {later : Cursor} {kept : Captures}
    (read : pattern.Takes ⟨[], line⟩ later [] kept) : pattern.Finds line kept :=
  ⟨_, read.find?, rfl⟩

/-- The one match of a line, if there is none in what it leaves. -/
theorem Takes.findAll {pattern : Pattern} {line : List Char} {later : Cursor} {kept : Captures}
    (read : pattern.Takes ⟨[], line⟩ later [] kept) (shorter : later.after.length < line.length)
    (noMore : pattern.findFrom? later.before later.after = none) :
    pattern.findAll line = [⟨⟨[], line⟩, later, kept⟩] := by
  cases line with
  | nil => simp at shorter
  | cons c rest =>
    have found := read.find?
    rw [Pattern.find?] at found
    have resumes : Match.resume? ⟨⟨[], c :: rest⟩, later, kept⟩ = some later := by
      simp only [Match.resume?, if_pos shorter]
    rw [Pattern.findAll, findAllFrom, Cursor.start, found]
    simp only [resumes, List.length_cons, findAllFrom, noMore]

end Symtab.Pattern
