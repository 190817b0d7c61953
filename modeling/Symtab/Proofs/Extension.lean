import Symtab.Proofs.Repetition

/-!
# Longer lines

When a line goes on behind its end, a pattern that does not ask for the end of the line can read
more than before. It makes no difference if all further readings lead nowhere: then the same reading
is preferred, and the same texts are kept.
-/

set_option autoImplicit false

namespace Symtab

/-- The same place in a line with more text at its end. -/
def Cursor.extend (place : Cursor) (more : List Char) : Cursor :=
  ⟨place.before, place.after ++ more⟩

namespace Pattern

variable {α : Type} {more : List Char}

/-!
## Observed matches
-/

private theorem map_orElse {β : Type} (view : α → β) (first : Option α) (second : Unit → Option α) :
    (first.orElse second).map view = (first.map view).orElse fun last =>
      (second last).map view := by
  cases first with
  | none => rfl
  | some result => rfl

private theorem iterate_map {β : Type} (view : α → β) {piece : Pattern}
    (pieceMap : ∀ (place : Cursor) (captures : Captures) (next : Continuation α),
      (piece.read place captures next).map view = piece.read place captures fun later kept =>
        (next later kept).map view)
    (limit : List Char) (place : Cursor) (captures : Captures) (next : Continuation α) :
    (iterate (fun place captures next => piece.read place captures next) limit place captures
      next).map view =
      iterate (fun place captures next => piece.read place captures next) limit place captures
        fun later kept => (next later kept).map view := by
  induction limit generalizing place captures with
  | nil => rfl
  | cons _ limit ih =>
    rw [iterate, iterate, map_orElse, pieceMap]
    simp only [ih]

/-- A view of the result can be taken as soon as the pattern is read. -/
theorem read_map {β : Type} (view : α → β) (pattern : Pattern) (place : Cursor)
    (captures : Captures) (next : Continuation α) :
    (pattern.read place captures next).map view =
      pattern.read place captures fun later kept => (next later kept).map view := by
  induction pattern generalizing place captures next with
  | empty => rfl
  | literal written =>
    rw [read, read]
    cases place.skip? written with
    | none => rfl
    | some later => rfl
  | one inClass =>
    rw [read, read]
    cases place.after with
    | nil => rfl
    | cons c rest =>
      cases belongs : inClass c with
      | false => simp [belongs]
      | true => simp [belongs]
  | many inClass | few inClass => exact List.map_findSome?
  | sequence first second firstMap secondMap =>
    rw [read, read, firstMap]
    simp only [secondMap]
  | choice first second firstMap secondMap => rw [read, read, map_orElse, firstMap, secondMap]
  | repeated piece pieceMap => exact iterate_map view pieceMap place.after place captures next
  | capture slot piece pieceMap => exact pieceMap place captures _
  | lineStart | lineEnd | wordEdge =>
    rw [read, read]
    split
    · rfl
    · rfl

theorem matchAt?_map {β : Type} (view : Captures → β) (pattern : Pattern) (place : Cursor) :
    (pattern.matchAt? place).map (fun found => view found.captures) =
      pattern.read place [] fun _ kept => some (view kept) :=
  read_map _ pattern place [] _

theorem Anchored.find?_eq_matchAt? {pattern : Pattern} (anchored : pattern.Anchored)
    (line : List Char) :
    pattern.find? line = pattern.matchAt? ⟨[], line⟩ := by
  cases line with
  | nil => rfl
  | cons c rest =>
    rw [Pattern.find?, findFrom?, anchored.findFrom?_eq_none c [] rest]
    cases pattern.matchAt? ⟨[], c :: rest⟩ with
    | none => rfl
    | some found => rfl

/-!
## Continuations that lead nowhere behind the old end
-/

/-- Nothing can go on from inside the added text. -/
def Fades (more : List Char) (next : Continuation α) : Prop :=
  ∀ before taken left kept, more = taken ++ left → taken ≠ [] → next ⟨before, left⟩ kept = none

theorem ReadsOnly.fades {pattern : Pattern} {reader : Cursor → Captures → Continuation α → Option α}
    (only : pattern.ReadsOnly reader) {next : Continuation α} (fades : Fades more next) :
    Fades more fun place kept => reader place kept next := by
  intro before taken left kept split nonempty
  cases success : reader ⟨before, left⟩ kept next with
  | none => exact success
  | some result =>
    obtain ⟨text, rest, inside, further, _, reached⟩ := only _ _ _ _ success
    simp only at further reached
    rw [fades _ (taken ++ text) rest inside (by rw [split, further, List.append_assoc])
      (by simp [nonempty])] at reached
    cases reached

/-- The places that a run can end at in the longer line are those in the line, after some inside the
added text. -/
theorem reachOver_extend (more : List Char) (inClass : Char → Bool) (nearer : List Cursor)
    (before after : List Char) :
    ∃ farther : List Cursor,
      Cursor.reachOver inClass (nearer.map (·.extend more)) before (after ++ more) =
        farther ++ (Cursor.reachOver inClass nearer before after).map (·.extend more) ∧
      ∀ later ∈ farther, ∃ taken, taken ≠ [] ∧ more = taken ++ later.after ∧
      ∀ c ∈ taken, inClass c = true := by
  induction after generalizing nearer before with
  | nil =>
    cases more with
    | nil => exact ⟨[], rfl, by simp⟩
    | cons c rest =>
      by_cases belongs : inClass c = true
      · refine ⟨Cursor.reachOver inClass [] (c :: before) rest, ?_, fun later member => ?_⟩
        · simp only [List.nil_append, Cursor.reachOver, if_pos belongs]
          exact reachOver_eq_append inClass _ _ _
        · rcases of_mem_reachOver member with below | ⟨text, left, rfl, inside, rfl⟩
          · cases below
          · exact ⟨c :: text, by simp, rfl, by simpa [belongs] using inside⟩
      · refine ⟨[], ?_, by simp⟩
        simp only [List.nil_append, Cursor.reachOver, if_neg belongs]
        rfl
  | cons c rest ih =>
    rw [List.cons_append, Cursor.reachOver, Cursor.reachOver]
    split
    · exact ih (⟨before, c :: rest⟩ :: nearer) (c :: before)
    · exact ⟨[], rfl, by simp⟩

private theorem findSome?_eq_none_of_fades {next : Continuation α} (fades : Fades more next)
    {inClass : Char → Bool} {farther : List Cursor}
    (inside : ∀ later ∈ farther, ∃ taken, taken ≠ [] ∧ more = taken ++ later.after ∧
      ∀ c ∈ taken, inClass c = true)
    (captures : Captures) : ∀ later ∈ farther, next later captures = none := by
  intro later member
  obtain ⟨taken, nonempty, split, _⟩ := inside later member
  exact fades later.before taken later.after captures split nonempty

/-- The pattern does not ask for the end of the line, and its repetitions read something in every
round. -/
@[simp]
def EndFree : Pattern → Prop
  | .lineEnd => False
  | .sequence first second | .choice first second => first.EndFree ∧ second.EndFree
  | .repeated piece => (¬piece.Passes fun _ => false) ∧ piece.EndFree
  | .capture _ piece => piece.EndFree
  | .empty | .literal _ | .one _ | .many _ | .few _ | .lineStart | .wordEdge => True

section EndFree

@[simp] theorem endFree_append {first second : Pattern} :
    (first ++ second).EndFree ↔ first.EndFree ∧ second.EndFree := Iff.rfl

@[simp] theorem endFree_orElse {first second : Pattern} :
    (first <|> second).EndFree ↔ first.EndFree ∧ second.EndFree := Iff.rfl

@[simp] theorem endFree_optional {piece : Pattern} : (optional piece).EndFree ↔ piece.EndFree := by
  simp [optional]

@[simp] theorem endFree_text (written : String) : (text written).EndFree := trivial

@[simp] theorem endFree_char (c : Char) : (char c).EndFree := trivial

@[simp] theorem endFree_many1 (inClass : Char → Bool) : (many1 inClass).EndFree :=
  ⟨trivial, trivial⟩

@[simp] theorem endFree_few1 (inClass : Char → Bool) : (few1 inClass).EndFree := ⟨trivial, trivial⟩

@[simp] theorem endFree_blanks : blanks.EndFree := trivial

@[simp] theorem endFree_blanks1 : blanks1.EndFree := endFree_many1 _

@[simp] theorem endFree_word : word.EndFree := endFree_many1 _

@[simp] theorem endFree_anyText : ∀ written : List String, (anyText written).EndFree
  | [] => trivial
  | [_] => trivial
  | _ :: second :: others => ⟨trivial, endFree_anyText (second :: others)⟩

end EndFree

private theorem textUpTo_extend (place later : Cursor) :
    (place.extend more).textUpTo (later.extend more) = place.textUpTo later := by
  have lengths :
      (place.after ++ more).length - (later.after ++ more).length =
        place.after.length - later.after.length := by
    simp only [List.length_append]
    omega
  rw [Cursor.textUpTo, Cursor.extend, Cursor.extend, lengths,
    List.take_append_of_le_length (Nat.sub_le _ _), Cursor.textUpTo]

section Extend

variable (edge : ∀ c ∈ more.head?, Text.isWord c = false)

include edge

private theorem atWordEdge_extend (place : Cursor) :
    (place.extend more).atWordEdge = place.atWordEdge := by
  have next : (place.after ++ more).head?.any Text.isWord = place.after.head?.any Text.isWord := by
    cases place.after with
    | nil =>
      cases first : more.head? with
      | none => simp [first]
      | some c => simp [first, edge c first]
    | cons c rest => rfl
  rw [Cursor.atWordEdge, Cursor.extend, next, Cursor.atWordEdge]

/-- A pattern reads the longer line like the line itself if nothing goes on behind the old end. -/
theorem read_extend (pattern : Pattern) (endFree : pattern.EndFree) {next : Continuation α}
    (fades : Fades more next) (place : Cursor) (captures : Captures) :
    pattern.read (place.extend more) captures next =
      pattern.read place captures fun later kept => next (later.extend more) kept := by
  induction pattern generalizing place captures next with
  | empty => rfl
  | literal written =>
    have leads : ∀ rest, place.after = written ++ rest →
        (literal written).read (place.extend more) captures next =
          (literal written).read place captures
          fun later kept => next (later.extend more) kept := by
      intro rest split
      simp [read, Cursor.skip?, Cursor.extend, split]
    by_cases here : written <+: place.after
    · obtain ⟨rest, split⟩ := here
      exact leads rest split.symm
    · have nowhere :
          (literal written).read place captures (fun later kept => next (later.extend more) kept) =
            none := by
        simp [read, Cursor.skip?, here]
      rw [nowhere]
      by_cases beyond : written <+: place.after ++ more
      · obtain ⟨left, split⟩ := beyond
        rcases List.append_eq_append_iff.mp split with ⟨rest, after, _⟩ | ⟨taken, spelled, added⟩
        · exact absurd ⟨rest, after.symm⟩ here
        · have nonempty : taken ≠ [] := by
            rintro rfl
            exact here ⟨[], by simpa using spelled⟩
          have fails := fades (written.reverse ++ place.before) taken left captures added nonempty
          simp [read, Cursor.skip?, Cursor.extend, ← split, fails]
      · simp [read, Cursor.skip?, Cursor.extend, beyond]
  | one inClass =>
    obtain ⟨before, after⟩ := place
    cases after with
    | nil =>
      cases more with
      | nil => rfl
      | cons c rest =>
        have fails := fades (c :: before) [c] rest captures rfl (by simp)
        simp [read, Cursor.extend, fails]
    | cons c rest => rfl
  | many inClass =>
    obtain ⟨farther, reached, inside⟩ := reachOver_extend more inClass [] place.before place.after
    have nothing : farther.findSome? (fun later => next later captures) = none :=
      List.findSome?_eq_none_iff.mpr (findSome?_eq_none_of_fades fades inside captures)
    rw [read, read, Cursor.reach, Cursor.reach]
    refine (congrArg (List.findSome? _) reached).trans ?_
    rw [List.findSome?_append, nothing, Option.none_or, List.findSome?_map]
    rfl
  | few inClass =>
    obtain ⟨farther, reached, inside⟩ := reachOver_extend more inClass [] place.before place.after
    have nothing : farther.reverse.findSome? (fun later => next later captures) = none := by
      refine List.findSome?_eq_none_iff.mpr fun later member => ?_
      exact findSome?_eq_none_of_fades fades inside captures later (List.mem_reverse.mp member)
    rw [read, read, Cursor.reach, Cursor.reach]
    refine (congrArg (fun places => List.findSome? _ (List.reverse places)) reached).trans ?_
    rw [List.reverse_append, List.findSome?_append, nothing, Option.or_none, ← List.map_reverse,
      List.findSome?_map]
    rfl
  | sequence first second firstExtends secondExtends =>
    rw [read, firstExtends endFree.1 ((readsOnly_read second).fades fades), read]
    simp only [secondExtends endFree.2 fades]
  | choice first second firstExtends secondExtends =>
    rw [read, read, firstExtends endFree.1 fades, secondExtends endFree.2 fades]
  | repeated piece pieceExtends =>
    obtain ⟨stuck, pieceFree⟩ := endFree
    -- With a bound that is enough for both lines, the rounds correspond one by one.
    have rounds : ∀ (limit : List Char) (place : Cursor) (captures : Captures),
        iterate (fun place captures next => piece.read place captures next) limit
          (place.extend more) captures next =
          iterate (fun place captures next => piece.read place captures next) limit place captures
            fun later kept => next (later.extend more) kept := by
      intro limit
      induction limit with
      | nil => exact fun _ _ => rfl
      | cons _ limit ih =>
        intro place captures
        have othersFade := (repeated_readsOnly_iterate (readsOnly_read piece) limit).fades fades
        rw [iterate, iterate, pieceExtends pieceFree othersFade]
        simp only [ih]
    rw [read, read]
    refine (rounds (place.after ++ more) place captures).trans ?_
    exact iterate_eq_of_length stuck _ _ _ place captures (by simp) (Nat.le_refl _)
  | capture slot piece pieceExtends =>
    have insideFades :
        Fades more fun later kept => next later
          ((slot, (place.extend more).textUpTo later) :: kept) :=
      fun before taken left kept => fades before taken left _
    have inside := pieceExtends endFree insideFades place captures
    simp only [textUpTo_extend] at inside
    exact inside
  | lineStart => rfl
  | lineEnd => exact endFree.elim
  | wordEdge => rw [read, read, atWordEdge_extend edge]

end Extend

/-!
## Patterns that end before the added text
-/

/-- The pattern reads nothing of the added text, whatever is to follow. -/
structure EndsBefore (more : List Char) (pattern : Pattern) : Prop where
  same : ∀ {α : Type} (next : Continuation α) (place : Cursor) (captures : Captures),
    pattern.read (place.extend more) captures next =
      pattern.read place captures fun later kept => next (later.extend more) kept
  fades : ∀ {α : Type} (next : Continuation α),
    Fades more fun place kept => pattern.read place kept next

theorem endsBefore_literal {written : List Char} (nonempty : written ≠ [])
    (apart : ∀ c ∈ written, c ∉ more) :
    (literal written).EndsBefore more where
  same := by
    intro α next place captures
    by_cases here : written <+: place.after
    · obtain ⟨rest, split⟩ := here
      simp [read, Cursor.skip?, Cursor.extend, ← split]
    · have nowhere : ¬written <+: place.after ++ more := by
        rintro ⟨left, split⟩
        rcases List.append_eq_append_iff.mp split with ⟨rest, after, _⟩ | ⟨taken, spelled, added⟩
        · exact here ⟨rest, after.symm⟩
        · cases taken with
          | nil => exact here ⟨[], by simpa using spelled⟩
          | cons c others => exact apart c (by simp [spelled]) (by simp [added])
      simp [read, Cursor.skip?, Cursor.extend, here, nowhere]
  fades := by
    intro α next before taken left kept split _
    have blocked : (literal written).Blocked ⟨before, left⟩ := by
      refine blocked_of_not_reads fun text rest captures kept further reads => ?_
      obtain ⟨rfl, _⟩ := reads
      obtain ⟨c, others, spelled⟩ := List.exists_cons_of_ne_nil nonempty
      exact apart c (by simp [spelled]) (by simp [split, further, spelled])
    exact blocked _ kept next

theorem endsBefore_one {inClass : Char → Bool} (outside : ∀ c ∈ more, inClass c = false) :
    (one inClass).EndsBefore more where
  same := by
    intro α next place captures
    obtain ⟨before, after⟩ := place
    cases after with
    | nil =>
      cases more with
      | nil => rfl
      | cons c rest => simp [read, Cursor.extend, outside c List.mem_cons_self]
    | cons c rest => rfl
  fades := by
    intro α next before taken left kept split _
    cases left with
    | nil => rfl
    | cons c rest => simp [read, outside c (by simp [split])]

theorem endsBefore_many1 {inClass : Char → Bool} (outside : ∀ c ∈ more, inClass c = false) :
    (many1 inClass).EndsBefore more where
  same := by
    intro α next place captures
    have run :
        ∀ (place : Cursor) (captures : Captures),
          (many inClass).read (place.extend more) captures next =
        (many inClass).read place captures fun later kept => next (later.extend more) kept := by
      intro place captures
      obtain ⟨farther, reached, inside⟩ := reachOver_extend more inClass [] place.before place.after
      obtain rfl : farther = [] := by
        refine List.eq_nil_iff_forall_not_mem.mpr fun later member => ?_
        obtain ⟨taken, nonempty, split, belong⟩ := inside later member
        obtain ⟨c, others, rfl⟩ := List.exists_cons_of_ne_nil nonempty
        have belongs := belong c List.mem_cons_self
        rw [outside c (by simp [split])] at belongs
        cases belongs
      rw [read, read, Cursor.reach, Cursor.reach]
      refine (congrArg (List.findSome? _) reached).trans ?_
      rw [List.nil_append, List.findSome?_map]
      rfl
    rw [many1, read_append, (endsBefore_one outside).same, read_append]
    simp only [run]
  fades :=
    fun next => (endsBefore_one outside).fades fun later kept => (many inClass).read later kept next

theorem EndsBefore.capture {piece : Pattern} (ends : piece.EndsBefore more) (slot : Slot) :
    (capture slot piece).EndsBefore more where
  same := by
    intro α next place captures
    rw [read, ends.same, read]
    simp only [textUpTo_extend]
  fades :=
    fun next before taken left kept split nonempty =>
      ends.fades _ before taken left kept split nonempty

/-- What comes before such a piece may read on into the added text, but the piece cannot be read
there. -/
theorem EndsBefore.prepend {last : Pattern} (ends : last.EndsBefore more)
    (edge : ∀ c ∈ more.head?, Text.isWord c = false) {first : Pattern} (endFree : first.EndFree) :
    (first ++ last).EndsBefore more where
  same := by
    intro α next place captures
    rw [read_append, read_extend edge first endFree (ends.fades next), read_append]
    simp only [ends.same]
  fades := fun next => (readsOnly_read first).fades (ends.fades next)

theorem EndsBefore.findFrom?_eq_none {pattern : Pattern} (ends : pattern.EndsBefore more)
    {taken left : List Char} (split : more = taken ++ left) (nonempty : taken ≠ [])
    (before : List Char) : pattern.findFrom? before left = none := by
  induction left generalizing before taken with
  | nil => exact ends.fades _ before taken [] [] split nonempty
  | cons c rest ih =>
    have splitFurther : more = (taken ++ [c]) ++ rest := by
      rw [split, List.append_assoc, List.singleton_append]
    have here : pattern.matchAt? ⟨before, c :: rest⟩ = none :=
      ends.fades _ before taken (c :: rest) [] split nonempty
    rw [findFrom?, here, ih splitFurther (by simp)]
    rfl

/-- The matches in the longer line keep the same texts. -/
theorem EndsBefore.findFrom?_append {pattern : Pattern} (ends : pattern.EndsBefore more)
    (before after : List Char) :
    (pattern.findFrom? before (after ++ more)).map (·.captures) =
      (pattern.findFrom? before after).map (·.captures) := by
  have here : ∀ before after, (pattern.matchAt? ⟨before, after ++ more⟩).map (·.captures) =
      (pattern.matchAt? ⟨before, after⟩).map (·.captures) := by
    intro before after
    have extended := matchAt?_map id pattern (Cursor.extend ⟨before, after⟩ more)
    rw [ends.same] at extended
    exact extended.trans (matchAt?_map id pattern ⟨before, after⟩).symm
  induction after generalizing before with
  | nil =>
    have atEnd := here before []
    cases added : more with
    | nil => rfl
    | cons c rest =>
      have split : more = [c] ++ rest := added
      have beyond := ends.findFrom?_eq_none split (by simp) (c :: before)
      rw [added, List.nil_append] at atEnd
      rw [List.nil_append, findFrom?.eq_2, beyond, findFrom?, ← atEnd]
      cases pattern.matchAt? ⟨before, c :: rest⟩ with
      | none => rfl
      | some found => rfl
  | cons c rest ih =>
    have first := here before (c :: rest)
    rw [List.cons_append] at first
    rw [List.cons_append, findFrom?, findFrom?, map_orElse, map_orElse, first, ih]

theorem EndsBefore.find?_append {pattern : Pattern} (ends : pattern.EndsBefore more)
    (line : List Char) :
    (pattern.find? (line ++ more)).map (·.captures) = (pattern.find? line).map (·.captures) :=
  ends.findFrom?_append [] line

end Pattern

end Symtab
