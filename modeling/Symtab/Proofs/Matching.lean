import Symtab.Pattern.Match

/-!
# What a match says about its line

The readings of a pattern, said without the order in which they are tried: a pattern reads a text
that stands between what is before it and the rest of the line. Every match that is found is such a
reading, so whatever holds of all readings of a pattern holds of its matches. Which of several
readings is preferred is not said here.
-/

set_option autoImplicit false

namespace Symtab

theorem Captures.mem_of_text? {captures : Captures} {slot : Slot} {text : List Char}
    (kept : captures.text? slot = some text) : (slot, text) ∈ captures := by
  obtain ⟨newer, older, split, _⟩ := List.lookup_eq_some_iff.mp kept
  rw [split]
  exact List.mem_append_cons_self

namespace Pattern

/-!
## Readings
-/

/-- Readings of a piece one after the other, any number of them. -/
inductive Repeats (reads : List Char → List Char → List Char → Captures → Captures → Prop) :
    List Char → List Char → List Char → Captures → Captures → Prop where
  | stop {before rest : List Char} {captures : Captures} : Repeats reads before
      [] rest captures captures
  | more {before piece text rest : List Char} {captures between kept : Captures}
      (first : reads before piece (text ++ rest) captures between)
      (others : Repeats reads (piece.reverse ++ before) text rest between kept) :
      Repeats reads before (piece ++ text) rest captures kept

/-- The pattern reads `text` after the characters of `before`, nearest first, and in front of
`rest`; the texts kept on the way are added to `captures`, which makes `kept`. -/
def Reads : Pattern → List Char → List Char → List Char → Captures → Captures → Prop
  | .empty, _, text, _, captures, kept => text = [] ∧ kept = captures
  | .literal written, _, text, _, captures, kept => text = written ∧ kept = captures
  | .one inClass, _, text, _, captures, kept =>
    (∃ c, text = [c] ∧ inClass c = true) ∧ kept = captures
  | .many inClass, _, text, _, captures, kept => (∀ c ∈ text, inClass c = true) ∧ kept = captures
  | .few inClass, _, text, _, captures, kept => (∀ c ∈ text, inClass c = true) ∧ kept = captures
  | .sequence first second, before, text, rest, captures, kept =>
    ∃ start finish between, text = start ++ finish ∧
      first.Reads before start (finish ++ rest) captures between ∧
      second.Reads (start.reverse ++ before) finish rest between kept
  | .choice first second, before, text, rest, captures, kept =>
    first.Reads before text rest captures kept ∨ second.Reads before text rest captures kept
  | .repeated piece, before, text, rest, captures, kept =>
    Repeats (fun before text rest captures kept => piece.Reads before text rest captures kept)
      before text rest captures kept
  | .capture slot piece, before, text, rest, captures, kept =>
    ∃ inside, piece.Reads before text rest captures inside ∧ kept = (slot, text) :: inside
  | .lineStart, before, text, _, captures, kept => (text = [] ∧ before = []) ∧ kept = captures
  | .lineEnd, _, text, rest, captures, kept => (text = [] ∧ rest = []) ∧ kept = captures
  | .wordEdge, before, text, rest, captures, kept =>
    (text = [] ∧ Cursor.atWordEdge ⟨before, rest⟩ = true) ∧ kept = captures

theorem Reads.of_many1 {inClass : Char → Bool} {before text rest : List Char}
    {captures kept : Captures} (reads : (many1 inClass).Reads before text rest captures kept) :
    text ≠ [] ∧ (∀ c ∈ text, inClass c = true) ∧ kept = captures := by
  obtain ⟨_, others, _, rfl, ⟨⟨c, rfl, first⟩, rfl⟩, ⟨inside, rfl⟩⟩ := reads
  exact ⟨by simp, by simpa [first] using inside, rfl⟩

theorem reads_many1 {inClass : Char → Bool} {text : List Char} (nonempty : text ≠ [])
    (inside : ∀ c ∈ text, inClass c = true) (before rest : List Char) (captures : Captures) :
    (many1 inClass).Reads before text rest captures captures := by
  obtain ⟨c, others, rfl⟩ := List.exists_cons_of_ne_nil nonempty
  obtain ⟨first, further⟩ := List.forall_mem_cons.mp inside
  exact ⟨[c], others, captures, rfl, ⟨⟨c, rfl, first⟩, rfl⟩, further, rfl⟩

theorem of_mem_reachOver {inClass : Char → Bool} {nearer : List Cursor} {before after : List Char}
    {later : Cursor} (member : later ∈ Cursor.reachOver inClass nearer before after) :
    later ∈ nearer ∨ ∃ text rest, after = text ++ rest ∧ (∀ c ∈ text, inClass c = true) ∧
      later = ⟨text.reverse ++ before, rest⟩ := by
  induction after generalizing nearer before with
  | nil =>
    rcases List.mem_cons.mp member with rfl | below
    · exact .inr ⟨[], [], rfl, by simp, rfl⟩
    · exact .inl below
  | cons c rest ih =>
    unfold Cursor.reachOver at member
    split at member
    · next belongs =>
      rcases ih member with below | ⟨text, remaining, rfl, inside, rfl⟩
      · rcases List.mem_cons.mp below with rfl | below
        · exact .inr ⟨[], c :: rest, rfl, by simp, rfl⟩
        · exact .inl below
      · exact .inr ⟨c :: text, remaining, rfl, by simpa [belongs] using inside, by simp⟩
    · rcases List.mem_cons.mp member with rfl | below
      · exact .inr ⟨[], c :: rest, rfl, by simp, rfl⟩
      · exact .inl below

/-- What is found after a run of characters of a class is found at some place that the run can end
at. -/
theorem of_findSome?_reach {α : Type} {inClass : Char → Bool} {place : Cursor}
    {attempt : Cursor → Option α} {result : α}
    (success : (place.reach inClass).findSome? attempt = some result) :
    ∃ text rest, place.after = text ++ rest ∧ (∀ c ∈ text, inClass c = true) ∧
      attempt ⟨text.reverse ++ place.before, rest⟩ = some result := by
  obtain ⟨later, member, found⟩ := List.exists_of_findSome?_eq_some success
  rcases of_mem_reachOver member with below | ⟨text, rest, split, inside, rfl⟩
  · cases below
  · exact ⟨text, rest, split, inside, found⟩

/-- A reader only goes on after readings of the pattern. -/
def ReadsOnly {α : Type} (pattern : Pattern)
    (reader : Cursor → Captures → Continuation α → Option α) : Prop :=
  ∀ place captures next result, reader place captures next = some result →
    ∃ text rest kept, place.after = text ++ rest ∧
      pattern.Reads place.before text rest captures kept ∧
      next ⟨text.reverse ++ place.before, rest⟩ kept = some result

theorem repeated_readsOnly_iterate {α : Type} {piece : Pattern}
    {reader : Cursor → Captures → Continuation α → Option α} (pieceReads : piece.ReadsOnly reader)
    (limit : List Char) :
    (repeated piece).ReadsOnly
      (fun place captures next => iterate reader limit place captures next) := by
  induction limit with
  | nil =>
    intro place captures next result success
    exact ⟨[], place.after, captures, rfl, .stop, success⟩
  | cons _ limit ih =>
    intro place captures next result success
    cases first : reader place captures fun later kept => iterate reader limit later kept next with
    | none =>
      simp only [iterate, first] at success
      exact ⟨[], place.after, captures, rfl, .stop, success⟩
    | some found =>
      simp only [iterate, first] at success
      cases success
      obtain ⟨start, remaining, between, split, firstReads, others⟩ := pieceReads _ _ _ _ first
      obtain ⟨text, rest, kept, further, othersRead, reached⟩ := ih _ _ _ _ others
      simp only at further othersRead reached
      subst further
      refine ⟨start ++ text, rest, kept, by rw [split, List.append_assoc],
        .more firstReads othersRead, ?_⟩
      rw [List.reverse_append, List.append_assoc]
      exact reached

theorem readsOnly_read {α : Type} (pattern : Pattern) : pattern.ReadsOnly (@read α pattern) := by
  induction pattern with
  | empty =>
    intro place captures next result success
    exact ⟨[], place.after, captures, rfl, ⟨rfl, rfl⟩, success⟩
  | literal written =>
    intro place captures next result success
    simp only [read, Cursor.skip?] at success
    split at success
    · next leads =>
      split at leads
      · next isPrefix =>
        cases leads
        obtain ⟨rest, whole⟩ := List.isPrefixOf_iff_prefix.mp isPrefix
        refine ⟨written, rest, captures, whole.symm, ⟨rfl, rfl⟩, ?_⟩
        simpa [← whole] using success
      · cases leads
    · cases success
  | one inClass =>
    intro place captures next result success
    simp only [read] at success
    split at success
    · cases success
    · next c rest after =>
      split at success
      · next belongs => exact ⟨[c], rest, captures, after, ⟨⟨c, rfl, belongs⟩, rfl⟩, success⟩
      · cases success
  | many inClass =>
    intro place captures next result success
    obtain ⟨text, rest, split, inside, reached⟩ := of_findSome?_reach success
    exact ⟨text, rest, captures, split, ⟨inside, rfl⟩, reached⟩
  | few inClass =>
    intro place captures next result success
    -- The places are tried in the opposite order, but they are the same.
    obtain ⟨later, member, found⟩ := List.exists_of_findSome?_eq_some success
    rcases of_mem_reachOver (List.mem_reverse.mp member) with below | ⟨text, rest, split,
      inside, rfl⟩
    · cases below
    · exact ⟨text, rest, captures, split, ⟨inside, rfl⟩, found⟩
  | sequence first second firstReads secondReads =>
    intro place captures next result success
    obtain ⟨start, remaining, between, split, readFirst, onward⟩ := firstReads _ _ _ _ success
    obtain ⟨finish, rest, kept, further, readSecond, reached⟩ := secondReads _ _ _ _ onward
    simp only at further readSecond reached
    subst further
    refine ⟨start ++ finish, rest, kept, by rw [split, List.append_assoc],
      ⟨start, finish, between, rfl, readFirst, readSecond⟩, ?_⟩
    rw [List.reverse_append, List.append_assoc]
    exact reached
  | choice first second firstReads secondReads =>
    intro place captures next result success
    cases taken : first.read place captures next with
    | none =>
      simp only [read, taken] at success
      obtain ⟨text, rest, kept, split, reads, reached⟩ := secondReads _ _ _ _ success
      exact ⟨text, rest, kept, split, .inr reads, reached⟩
    | some found =>
      simp only [read, taken] at success
      cases success
      obtain ⟨text, rest, kept, split, reads, reached⟩ := firstReads _ _ _ _ taken
      exact ⟨text, rest, kept, split, .inl reads, reached⟩
  | repeated piece pieceReads =>
    intro place captures next result success
    exact repeated_readsOnly_iterate pieceReads place.after place captures next result success
  | capture slot piece pieceReads =>
    intro place captures next result success
    obtain ⟨text, rest, kept, split, reads, reached⟩ := pieceReads _ _ _ _ success
    refine ⟨text, rest, (slot, text) :: kept, split, ⟨kept, reads, rfl⟩, ?_⟩
    simpa [Cursor.textUpTo, split] using reached
  | lineStart =>
    intro place captures next result success
    simp only [read] at success
    split at success
    · next atStart =>
        exact ⟨[], place.after, captures, rfl, ⟨⟨rfl, by simpa using atStart⟩, rfl⟩, success⟩
    · cases success
  | lineEnd =>
    intro place captures next result success
    simp only [read] at success
    split at success
    · next atEnd =>
        exact ⟨[], place.after, captures, rfl, ⟨⟨rfl, by simpa using atEnd⟩, rfl⟩, success⟩
    · cases success
  | wordEdge =>
    intro place captures next result success
    simp only [read] at success
    split at success
    · next atEdge => exact ⟨[], place.after, captures, rfl, ⟨⟨rfl, atEdge⟩, rfl⟩, success⟩
    · cases success

/-!
## Matches
-/

/-- The match is a reading of the pattern in the line. -/
def IsMatch (pattern : Pattern) (line : List Char) (found : Match) : Prop :=
  ∃ before text rest kept, line = before.reverse ++ (text ++ rest) ∧
    pattern.Reads before text rest [] kept ∧
    found = ⟨⟨before, text ++ rest⟩, ⟨text.reverse ++ before, rest⟩, kept⟩

private theorem isMatch_of_matchAt? {pattern : Pattern} {place : Cursor} {found : Match}
    (matched : pattern.matchAt? place = some found) :
    pattern.IsMatch (place.before.reverse ++ place.after) found := by
  obtain ⟨text, rest, kept, split, reads, reached⟩ := readsOnly_read pattern _ _ _ _ matched
  cases reached
  exact ⟨place.before, text, rest, kept, by rw [split], reads, by rw [← split]⟩

private theorem isMatch_of_findFrom? {pattern : Pattern} {before after : List Char} {found : Match}
    (matched : pattern.findFrom? before after = some found) :
    pattern.IsMatch (before.reverse ++ after) found := by
  induction after generalizing before with
  | nil => exact isMatch_of_matchAt? matched
  | cons c rest ih =>
    cases here : pattern.matchAt? ⟨before, c :: rest⟩ with
    | none =>
      simp only [findFrom?, here] at matched
      simpa using ih matched
    | some first =>
      simp only [findFrom?, here] at matched
      cases matched
      exact isMatch_of_matchAt? here

theorem isMatch_of_find? {pattern : Pattern} {line : List Char} {found : Match}
    (matched : pattern.find? line = some found) : pattern.IsMatch line found := by
  simpa using isMatch_of_findFrom? matched

/-- The search goes on in the same line. -/
theorem IsMatch.resume? {pattern : Pattern} {line : List Char} {found : Match} {later : Cursor}
    (isMatch : pattern.IsMatch line found) (resumes : found.resume? = some later) :
    later.before.reverse ++ later.after = line := by
  obtain ⟨before, text, rest, kept, rfl, _, rfl⟩ := isMatch
  unfold Match.resume? at resumes
  split at resumes
  · cases resumes
    simp
  · split at resumes
    · cases resumes
    · next c others restSplits =>
      cases resumes
      simp only at restSplits
      simp [restSplits]

private theorem isMatch_of_mem_findAllFrom {pattern : Pattern} {limit : Nat} {place : Cursor}
    {found : Match} (member : found ∈ pattern.findAllFrom limit place) :
    pattern.IsMatch (place.before.reverse ++ place.after) found := by
  induction limit generalizing place with
  | zero => cases member
  | succ limit ih =>
    unfold findAllFrom at member
    split at member
    · cases member
    · next first matched =>
      have firstIsMatch := isMatch_of_findFrom? matched
      split at member
      · cases List.mem_singleton.mp member
        exact firstIsMatch
      · next later resumes =>
        rcases List.mem_cons.mp member with rfl | further
        · exact firstIsMatch
        · have furtherIsMatch := ih further
          rwa [firstIsMatch.resume? resumes] at furtherIsMatch

theorem isMatch_of_mem_findAll {pattern : Pattern} {line : List Char} {found : Match}
    (member : found ∈ pattern.findAll line) : pattern.IsMatch line found :=
  isMatch_of_mem_findAllFrom member

/-!
## Kept texts
-/

/-- Every text kept by a reading is a part of what is read. -/
theorem Reads.kept_isInfix {pattern : Pattern} {before text rest : List Char}
    {captures kept : Captures} (reads : pattern.Reads before text rest captures kept) :
    ∀ entry ∈ kept, entry ∈ captures ∨ entry.2 <:+: text := by
  induction pattern generalizing before text rest captures kept with
  | empty | literal | one | many | few | lineStart | lineEnd | wordEdge =>
    obtain ⟨_, rfl⟩ := reads
    exact fun entry member => .inl member
  | sequence first second firstInfix secondInfix =>
    obtain ⟨start, finish, between, rfl, readFirst, readSecond⟩ := reads
    intro entry member
    rcases secondInfix readSecond entry member with earlier | inFinish
    · exact (firstInfix readFirst entry earlier).imp_right fun inStart =>
        inStart.trans (List.prefix_append start finish).isInfix
    · exact .inr (inFinish.trans (List.suffix_append start finish).isInfix)
  | choice first second firstInfix secondInfix =>
    rcases reads with readFirst | readSecond
    · exact firstInfix readFirst
    · exact secondInfix readSecond
  | repeated piece pieceInfix =>
    induction reads with
    | stop => exact fun entry member => .inl member
    | more first _ othersInfix =>
      intro entry member
      rcases othersInfix entry member with earlier | inOthers
      · exact (pieceInfix first entry earlier).imp_right fun inFirst =>
          inFirst.trans (List.prefix_append _ _).isInfix
      · exact .inr (inOthers.trans (List.suffix_append _ _).isInfix)
  | capture slot piece pieceInfix =>
    obtain ⟨inside, readPiece, rfl⟩ := reads
    intro entry member
    rcases List.mem_cons.mp member with rfl | earlier
    · exact .inr List.infix_rfl
    · exact pieceInfix readPiece entry earlier

theorem IsMatch.text?_isInfix {pattern : Pattern} {line : List Char} {found : Match}
    (isMatch : pattern.IsMatch line found) {slot : Slot} {text : List Char}
    (kept : found.captures.text? slot = some text) : text <:+: line := by
  obtain ⟨before, whole, rest, captures, rfl, reads, rfl⟩ := isMatch
  rcases reads.kept_isInfix _ (Captures.mem_of_text? kept) with earlier | inWhole
  · cases earlier
  · exact inWhole.trans ⟨before.reverse, rest, by simp⟩

/-!
## What all readings have in common
-/

/-- Whatever the pattern reads is made of characters with the property. -/
def Within (property : Char → Prop) : Pattern → Prop
  | .empty | .lineStart | .lineEnd | .wordEdge => True
  | .literal written => ∀ c ∈ written, property c
  | .one inClass | .many inClass | .few inClass => ∀ c, inClass c = true → property c
  | .sequence first second | .choice first second => first.Within property ∧ second.Within property
  | .repeated piece | .capture _ piece => piece.Within property

theorem Reads.within {property : Char → Prop} {pattern : Pattern} {before text rest : List Char}
    {captures kept : Captures} (reads : pattern.Reads before text rest captures kept)
    (within : pattern.Within property) : ∀ c ∈ text, property c := by
  induction pattern generalizing before text rest captures kept with
  | empty =>
    obtain ⟨rfl, _⟩ := reads
    simp
  | literal written =>
    obtain ⟨rfl, _⟩ := reads
    exact within
  | one inClass =>
    obtain ⟨⟨c, rfl, belongs⟩, _⟩ := reads
    simpa using within c belongs
  | many inClass | few inClass =>
    obtain ⟨inside, _⟩ := reads
    exact fun c member => within c (inside c member)
  | sequence first second firstWithin secondWithin =>
    obtain ⟨start, finish, between, rfl, readFirst, readSecond⟩ := reads
    exact List.forall_mem_append.mpr
      ⟨firstWithin readFirst within.1, secondWithin readSecond within.2⟩
  | choice first second firstWithin secondWithin =>
    rcases reads with readFirst | readSecond
    · exact firstWithin readFirst within.1
    · exact secondWithin readSecond within.2
  | repeated piece pieceWithin =>
    induction reads with
    | stop => simp
    | more first _ others => exact List.forall_mem_append.mpr ⟨pieceWithin first within, others⟩
  | capture slot piece pieceWithin =>
    obtain ⟨inside, readPiece, _⟩ := reads
    exact pieceWithin readPiece within
  | lineStart | lineEnd | wordEdge =>
    obtain ⟨⟨rfl, _⟩, _⟩ := reads
    simp

/-- Whatever the pattern reads has a character with the property. -/
@[simp]
def Requires (property : Char → Prop) : Pattern → Prop
  | .empty | .many _ | .few _ | .repeated _ | .lineStart | .lineEnd | .wordEdge => False
  | .literal written => ∃ c ∈ written, property c
  | .one inClass => ∀ c, inClass c = true → property c
  | .sequence first second => first.Requires property ∨ second.Requires property
  | .choice first second => first.Requires property ∧ second.Requires property
  | .capture _ piece => piece.Requires property

section Requires

variable {property : Char → Prop}

@[simp] theorem requires_append {first second : Pattern} :
    (first ++ second).Requires property ↔ first.Requires property ∨ second.Requires property :=
  Iff.rfl

@[simp] theorem requires_text {written : String} :
    (text written).Requires property ↔ ∃ c ∈ written.toList, property c := Iff.rfl

@[simp] theorem requires_char {c : Char} : (char c).Requires property ↔ property c := by
  simp [char]

end Requires

theorem Reads.requires {property : Char → Prop} {pattern : Pattern} {before text rest : List Char}
    {captures kept : Captures} (reads : pattern.Reads before text rest captures kept)
    (requires : pattern.Requires property) :
    ∃ c ∈ text, property c := by
  induction pattern generalizing before text rest captures kept with
  | empty | many | few | repeated | lineStart | lineEnd | wordEdge => exact requires.elim
  | literal written =>
    obtain ⟨rfl, _⟩ := reads
    exact requires
  | one inClass =>
    obtain ⟨⟨c, rfl, belongs⟩, _⟩ := reads
    exact ⟨c, List.mem_singleton_self c, requires c belongs⟩
  | sequence first second firstRequires secondRequires =>
    obtain ⟨start, finish, between, rfl, readFirst, readSecond⟩ := reads
    rcases requires with inFirst | inSecond
    · obtain ⟨c, member, holds⟩ := firstRequires readFirst inFirst
      exact ⟨c, List.mem_append_left finish member, holds⟩
    · obtain ⟨c, member, holds⟩ := secondRequires readSecond inSecond
      exact ⟨c, List.mem_append_right start member, holds⟩
  | choice first second firstRequires secondRequires =>
    rcases reads with readFirst | readSecond
    · exact firstRequires readFirst requires.1
    · exact secondRequires readSecond requires.2
  | capture slot piece pieceRequires =>
    obtain ⟨inside, readPiece, _⟩ := reads
    exact pieceRequires readPiece requires

/-- A line without a character that every reading has holds no match. -/
theorem find?_eq_none_of_requires {property : Char → Prop} {pattern : Pattern}
    (requires : pattern.Requires property) {line : List Char} (absent : ∀ c ∈ line, ¬property c) :
    pattern.find? line = none := by
  cases matched : pattern.find? line with
  | none => rfl
  | some found =>
    obtain ⟨before, text, rest, kept, rfl, reads, _⟩ := isMatch_of_find? matched
    obtain ⟨c, member, holds⟩ := reads.requires requires
    exact absurd holds (absent c (by simp [member]))

/-- Whatever the pattern keeps under the slot has the property. -/
@[simp]
def Keeps (slot : Slot) (property : List Char → Prop) : Pattern → Prop
  | .empty | .literal _ | .one _ | .many _ | .few _ | .lineStart | .lineEnd | .wordEdge => True
  | .sequence first second | .choice first second =>
    first.Keeps slot property ∧ second.Keeps slot property
  | .repeated piece => piece.Keeps slot property
  | .capture named piece =>
    (named = slot → ∀ before text rest captures kept, piece.Reads before text rest captures kept →
      property text) ∧
      piece.Keeps slot property

section Keeps

variable {slot : Slot} {property : List Char → Prop}

@[simp] theorem keeps_append {first second : Pattern} :
    (first ++ second).Keeps slot property ↔
      first.Keeps slot property ∧ second.Keeps slot property := Iff.rfl

@[simp] theorem keeps_orElse {first second : Pattern} :
    (first <|> second).Keeps slot property ↔
      first.Keeps slot property ∧ second.Keeps slot property := Iff.rfl

@[simp] theorem keeps_optional {piece : Pattern} :
    (optional piece).Keeps slot property ↔ piece.Keeps slot property := by
  simp [optional, Keeps]

@[simp] theorem keeps_repeated1 {piece : Pattern} :
    (repeated1 piece).Keeps slot property ↔ piece.Keeps slot property := by
  simp [repeated1, Keeps]

@[simp] theorem keeps_text (written : String) : (text written).Keeps slot property := trivial

@[simp] theorem keeps_char (c : Char) : (char c).Keeps slot property := trivial

@[simp] theorem keeps_many1 (inClass : Char → Bool) : (many1 inClass).Keeps slot property :=
  ⟨trivial, trivial⟩

@[simp] theorem keeps_blanks : blanks.Keeps slot property := trivial

@[simp] theorem keeps_blanks1 : blanks1.Keeps slot property := keeps_many1 _

@[simp] theorem keeps_word : word.Keeps slot property := keeps_many1 _

end Keeps

theorem Reads.keeps {slot : Slot} {property : List Char → Prop} {pattern : Pattern}
    {before text rest : List Char} {captures kept : Captures}
    (reads : pattern.Reads before text rest captures kept) (keeps : pattern.Keeps slot property) :
    ∀ part, (slot, part) ∈ kept → (slot, part) ∈ captures ∨ property part := by
  induction pattern generalizing before text rest captures kept with
  | empty | literal | one | many | few | lineStart | lineEnd | wordEdge =>
    obtain ⟨_, rfl⟩ := reads
    exact fun part member => .inl member
  | sequence first second firstKeeps secondKeeps =>
    obtain ⟨start, finish, between, rfl, readFirst, readSecond⟩ := reads
    intro part member
    rcases secondKeeps readSecond keeps.2 part member with earlier | holds
    · exact firstKeeps readFirst keeps.1 part earlier
    · exact .inr holds
  | choice first second firstKeeps secondKeeps =>
    rcases reads with readFirst | readSecond
    · exact firstKeeps readFirst keeps.1
    · exact secondKeeps readSecond keeps.2
  | repeated piece pieceKeeps =>
    induction reads with
    | stop => exact fun part member => .inl member
    | more first _ othersKeep =>
      intro part member
      rcases othersKeep part member with earlier | holds
      · exact pieceKeeps first keeps part earlier
      · exact .inr holds
  | capture named piece pieceKeeps =>
    obtain ⟨inside, readPiece, rfl⟩ := reads
    intro part member
    rcases List.mem_cons.mp member with same | earlier
    · cases same
      exact .inr (keeps.1 rfl _ _ _ _ _ readPiece)
    · exact pieceKeeps readPiece keeps.2 part earlier

/-- A slot that no piece of the pattern keeps stays empty. -/
theorem Reads.absent {slot : Slot} {pattern : Pattern} {before text rest : List Char}
    {captures kept : Captures} (reads : pattern.Reads before text rest captures kept)
    (keeps : pattern.Keeps slot fun _ => False) (absent : ∀ part, (slot, part) ∉ captures) :
    ∀ part, (slot, part) ∉ kept := by
  intro part member
  rcases reads.keeps keeps part member with earlier | never
  · exact absent part earlier
  · exact never

theorem Reads.held_eq {slot : Slot} {pattern : Pattern} {before text rest middle : List Char}
    {captures kept : Captures}
    (reads : pattern.Reads before text rest ((slot, middle) :: captures) kept)
    (keeps : pattern.Keeps slot fun _ => False) (absent : ∀ part, (slot, part) ∉ captures)
    {part : List Char} (held : kept.text? slot = some part) : part = middle := by
  rcases reads.keeps keeps part (Captures.mem_of_text? held) with earlier | never
  · rcases List.mem_cons.mp earlier with here | inCaptures
    · cases here
      rfl
    · exact absurd inCaptures (absent part)
  · exact never.elim

theorem IsMatch.keeps {pattern : Pattern} {line : List Char} {found : Match}
    (isMatch : pattern.IsMatch line found) {slot : Slot} {property : List Char → Prop}
    (keeps : pattern.Keeps slot property) {text : List Char}
    (kept : found.captures.text? slot = some text) : property text := by
  obtain ⟨before, whole, rest, captures, rfl, reads, rfl⟩ := isMatch
  rcases reads.keeps keeps text (Captures.mem_of_text? kept) with earlier | holds
  · cases earlier
  · exact holds

end Pattern

end Symtab
