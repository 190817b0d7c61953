import Symtab.Proofs.Preferred

/-!
# Repetitions

A repetition is bounded by the length of what is left of the line. Where every round reads something
the bound is never felt, and a repetition is one round and the same repetition again, or nothing.
-/

set_option autoImplicit false

namespace Symtab.Pattern

section Congruence

variable {α : Type} {next other : Continuation α}

/-- Two ways to go on after readings of a pattern do the same. -/
def AgreeAfter (pattern : Pattern) (place : Cursor) (captures : Captures)
    (next other : Continuation α) : Prop :=
  ∀ text rest kept, place.after = text ++ rest →
    pattern.Reads place.before text rest captures kept →
    next ⟨text.reverse ++ place.before, rest⟩ kept = other ⟨text.reverse ++ place.before, rest⟩ kept

private theorem iterate_congr {piece : Pattern}
    (pieceCongr : ∀ (place : Cursor) (captures : Captures) (next other : Continuation α),
      piece.AgreeAfter place captures next other →
      piece.read place captures next = piece.read place captures other)
    (limit : List Char) (place : Cursor) (captures : Captures)
    (agree : (repeated piece).AgreeAfter place captures next other) :
    iterate (fun place captures next => piece.read place captures next) limit place captures next =
      iterate (fun place captures next => piece.read place captures next) limit place captures
        other := by
  induction limit generalizing place captures with
  | nil => exact agree [] place.after captures rfl .stop
  | cons _ limit ih =>
    have stop : next place captures = other place captures :=
      agree [] place.after captures rfl .stop
    rw [iterate, iterate, stop]
    congr 1
    refine pieceCongr place captures _ _ fun start remaining between split readPiece => ih _ _ ?_
    intro text rest kept further readOthers
    simp only at further readOthers
    subst further
    have whole :=
      agree (start ++ text) rest kept (by rw [split, List.append_assoc])
        (.more readPiece readOthers)
    rw [List.reverse_append, List.append_assoc] at whole
    exact whole

private theorem findSome?_reach_congr {inClass : Char → Bool} {place : Cursor} {captures : Captures}
    (agree : (many inClass).AgreeAfter place captures next other) :
    ∀ later ∈ place.reach inClass, next later captures = other later captures := by
  intro later member
  rcases of_mem_reachOver member with below | ⟨text, rest, split, inside, rfl⟩
  · cases below
  · exact agree text rest captures split ⟨inside, rfl⟩

private theorem findSome?_congr_mem {places : List Cursor} {first second : Cursor → Option α}
    (agree : ∀ later ∈ places, first later = second later) :
    places.findSome? first = places.findSome? second := by
  induction places with
  | nil => rfl
  | cons later others ih =>
    obtain ⟨here, further⟩ := List.forall_mem_cons.mp agree
    rw [List.findSome?_cons, List.findSome?_cons, here, ih further]

/-- What is found depends on nothing but how it goes on after readings of the pattern. -/
theorem read_congr (pattern : Pattern) (place : Cursor) (captures : Captures)
    (next other : Continuation α) (agree : pattern.AgreeAfter place captures next other) :
    pattern.read place captures next = pattern.read place captures other := by
  induction pattern generalizing place captures next other with
  | empty => exact agree [] place.after captures rfl ⟨rfl, rfl⟩
  | literal written =>
    by_cases leads : written.isPrefixOf place.after = true
    · obtain ⟨rest, whole⟩ := List.isPrefixOf_iff_prefix.mp leads
      have same := agree written rest captures whole.symm ⟨rfl, rfl⟩
      simpa [read, Cursor.skip?, leads, ← whole] using same
    · simp [read, Cursor.skip?, leads]
  | one inClass =>
    cases after : place.after with
    | nil => simp [read, after]
    | cons c rest =>
      cases belongs : inClass c with
      | false => simp [read, after, belongs]
      | true =>
        have same := agree [c] rest captures after ⟨⟨c, rfl, belongs⟩, rfl⟩
        simpa [read, after, belongs] using same
  | many inClass => exact findSome?_congr_mem (findSome?_reach_congr agree)
  | few inClass =>
    have likeMany : (many inClass).AgreeAfter place captures next other := agree
    exact findSome?_congr_mem fun later member =>
      findSome?_reach_congr likeMany later (List.mem_reverse.mp member)
  | sequence first second firstCongr secondCongr =>
    refine firstCongr place captures _ _ fun start remaining between split readFirst => ?_
    refine secondCongr _ between _ _ fun finish rest kept further readSecond => ?_
    simp only at further readSecond
    subst further
    have whole := agree (start ++ finish) rest kept (by rw [split, List.append_assoc])
      ⟨start, finish, between, rfl, readFirst, readSecond⟩
    rw [List.reverse_append, List.append_assoc] at whole
    exact whole
  | choice first second firstCongr secondCongr =>
    have sameFirst := firstCongr place captures next other fun text rest kept split reads =>
      agree text rest kept split (.inl reads)
    have sameSecond := secondCongr place captures next other fun text rest kept split reads =>
      agree text rest kept split (.inr reads)
    rw [read, read, sameFirst, sameSecond]
  | repeated piece pieceCongr => exact iterate_congr pieceCongr place.after place captures agree
  | capture slot piece pieceCongr =>
    refine pieceCongr place captures _ _ fun text rest kept split reads => ?_
    have same := agree text rest ((slot, text) :: kept) split ⟨kept, reads, rfl⟩
    simpa [Cursor.textUpTo, split] using same
  | lineStart =>
    cases atStart : place.before.isEmpty with
    | false => simp [read, atStart]
    | true =>
      have same := agree [] place.after captures rfl ⟨⟨rfl, by simpa using atStart⟩, rfl⟩
      simpa [read, atStart] using same
  | lineEnd =>
    cases atEnd : place.after.isEmpty with
    | false => simp [read, atEnd]
    | true =>
      have same := agree [] place.after captures rfl ⟨⟨rfl, by simpa using atEnd⟩, rfl⟩
      simpa [read, atEnd] using same
  | wordEdge =>
    cases atEdge : place.atWordEdge with
    | false => simp [read, atEdge]
    | true =>
      have same := agree [] place.after captures rfl ⟨⟨rfl, atEdge⟩, rfl⟩
      simpa [read, atEdge] using same

end Congruence

theorem Reads.ne_nil {pattern : Pattern} {before text rest : List Char} {captures kept : Captures}
    (reads : pattern.Reads before text rest captures kept)
    (stuck : ¬pattern.Passes fun _ => false) : text ≠ [] := by
  rcases reads.meets fun _ => false with ⟨_, passes⟩ | ⟨c, found, _⟩
  · exact absurd passes stuck
  · rintro rfl
    cases found

section Rounds

variable {piece : Pattern} (stuck : ¬piece.Passes fun _ => false)

include stuck

theorem blocked_at_end (before : List Char) : piece.Blocked ⟨before, []⟩ := by
  refine blocked_of_not_reads fun text rest captures kept split reads => ?_
  exact reads.ne_nil stuck (List.append_eq_nil_iff.mp split.symm).1

/-- Any two bounds that the line cannot exhaust are as good as each other. -/
theorem iterate_eq_of_length {α : Type} (next : Continuation α) (limit enough : List Char)
    (place : Cursor) (captures : Captures) (fits : place.after.length ≤ limit.length)
    (alsoFits : place.after.length ≤ enough.length) :
    iterate (fun place captures next => piece.read place captures next) limit place captures next =
      iterate (fun place captures next => piece.read place captures next) enough place
        captures next := by
  obtain ⟨before, after⟩ := place
  induction limit generalizing enough before after captures with
  | nil =>
    obtain rfl : after = [] := List.eq_nil_of_length_eq_zero (Nat.le_zero.mp fits)
    cases enough with
    | nil => rfl
    | cons _ enough => rw [iterate, iterate, blocked_at_end stuck]; rfl
  | cons _ limit ih =>
    cases enough with
    | nil =>
      obtain rfl : after = [] := List.eq_nil_of_length_eq_zero (Nat.le_zero.mp alsoFits)
      rw [iterate, iterate, blocked_at_end stuck]
      rfl
    | cons _ enough =>
      rw [iterate, iterate]
      congr 1
      -- Each round takes at least one character off what the bound has to cover.
      refine read_congr piece _ captures _ _ fun text rest kept split reads =>
        ih enough kept _ rest ?_ ?_
      all_goals
        have shorter := List.length_pos_iff.mpr (reads.ne_nil stuck)
        have whole := congrArg List.length split
        simp only [List.length_append, List.length_cons] at whole fits alsoFits ⊢
        omega

/-- A repetition is a round and the same repetition, or nothing. -/
theorem read_repeated {α : Type} (place : Cursor) (captures : Captures) (next : Continuation α) :
    (repeated piece).read place captures next =
      (piece.read place captures fun later kept => (repeated piece).read later kept next).orElse
        fun _ => next place captures := by
  obtain ⟨before, after⟩ := place
  cases after with
  | nil =>
    rw [blocked_at_end stuck]
    rfl
  | cons c others =>
    rw [read, iterate]
    congr 1
    refine read_congr piece _ captures _ _ fun text rest kept split reads => ?_
    refine iterate_eq_of_length stuck next others rest _ kept ?_ (Nat.le_refl _)
    have shorter := List.length_pos_iff.mpr (reads.ne_nil stuck)
    have whole := congrArg List.length split
    simp only [List.length_append, List.length_cons] at whole ⊢
    omega

variable {follow : Pattern} {place between later : Cursor} {captures kept : Captures}

theorem Takes.repeatedMore (round : piece.Takes place between captures captures)
    (others : (repeated piece ++ follow).Takes between later captures kept) :
    (repeated piece ++ follow).Takes place later captures kept := by
  intro _ next result goesOn
  have onward :
      (piece.read place captures fun later kept =>
        (repeated piece).read later kept fun later kept =>
      follow.read later kept next) = some result := round _ _ result (others _ next result goesOn)
  rw [read_append, read_repeated stuck, onward]
  rfl

theorem Takes.repeatedRound (round : piece.Takes place between captures captures)
    (others : (repeated piece).Takes between later captures kept) :
    (repeated piece).Takes place later captures kept := by
  intro _ next result goesOn
  have onward :
      (piece.read place captures fun later kept => (repeated piece).read later kept next) =
        some result :=
    round _ _ result (others _ next result goesOn)
  rw [read_repeated stuck, onward]
  rfl

/-- A round that leads nowhere is given back. -/
theorem Takes.repeatedGiveBack (blocked : (piece ++ (repeated piece ++ follow)).Blocked place)
    (readFollow : follow.Takes place later captures kept) :
    (repeated piece ++ follow).Takes place later captures kept := by
  intro _ next result goesOn
  have nowhere :
      (piece.read place captures fun later kept =>
        (repeated piece).read later kept fun later kept =>
      follow.read later kept next) = none := blocked _ captures next
  rw [read_append, read_repeated stuck, nowhere]
  exact readFollow _ next result goesOn

end Rounds

theorem Takes.repeatedNone {piece follow : Pattern} {place later : Cursor}
    {captures kept : Captures} (blocked : piece.Blocked place)
    (readFollow : follow.Takes place later captures kept) :
    (repeated piece ++ follow).Takes place later captures kept :=
  (takes_repeated_nothing blocked captures).append readFollow

end Symtab.Pattern
