import Symtab.Proofs.ControlFlow
import Symtab.Proofs.Exhaustive

/-!
# Where words end

A part of a line stands apart if no word goes on beyond its ends. What a slot holds stands apart if
what is read in front of it never ends in a word, and what is read behind it never starts in one.
Where the pattern itself would allow a word to be cut, the order in which readings are tried does
not: a word that is to be long is read to its end, and a text in front of a word that is to be short
leaves the whole word.
-/

set_option autoImplicit false

namespace Symtab

/-- The part stands in the line with no word character right before it and none right after it. -/
def StandsApart (line part : List Char) : Prop :=
  ∃ before after, line = before ++ (part ++ after) ∧
    (∀ c ∈ before.getLast?, Text.isWord c = false) ∧
    ∀ c ∈ after.head?, Text.isWord c = false

/-- Behind a separator that is no word character, the rest of a part that stands apart does so
too. -/
theorem StandsApart.suffix {line start finish : List Char}
    (stands : StandsApart line (start ++ finish))
    (edge : ∀ c ∈ start.getLast?, Text.isWord c = false) : StandsApart line finish := by
  obtain ⟨before, after, rfl, left, right⟩ := stands
  refine ⟨before ++ start, after, by simp, fun c last => ?_, right⟩
  rw [List.getLast?_append] at last
  rcases Option.or_eq_some_iff.mp last with inStart | ⟨_, earlier⟩
  · exact edge c inStart
  · exact left c earlier

private theorem forall_mem_head?_append {property : Char → Prop} {first second : List Char}
    (inFirst : ∀ c ∈ first.head?, property c) (inSecond : ∀ c ∈ second.head?, property c) :
    ∀ c ∈ (first ++ second).head?, property c := by
  intro c ahead
  rw [List.head?_append] at ahead
  rcases Option.or_eq_some_iff.mp ahead with leading | ⟨_, following⟩
  · exact inFirst c leading
  · exact inSecond c following

private theorem takeWhile_wordRun {run rest : List Char} (isWord : ∀ c ∈ run, Text.isWord c = true)
    (stops : ∀ c ∈ rest.head?, Text.isWord c = false) :
    (run ++ rest).takeWhile Text.isWord = run := by
  rw [List.takeWhile_append_of_pos isWord]
  cases rest with
  | nil => simp
  | cons c rest => simp [stops c rfl]

namespace Pattern

theorem isWord_eq_false_of_oneOf {included : List Char}
    (apart : ∀ c ∈ included, Text.isWord c = false) (c : Char) (listed : oneOf included c = true) :
    Text.isWord c = false :=
  apart c (by simpa [oneOf] using listed)

/-!
## What is read in front of a word
-/

/-- Whatever the pattern reads ends at a place with no word character right before it. -/
def StopsOutside (pattern : Pattern) : Prop :=
  ∀ before text rest captures kept, pattern.Reads before text rest captures kept →
    ∀ c ∈ (text.reverse ++ before).head?, Text.isWord c = false

section StopsOutside

variable {first second piece : Pattern} {inClass : Char → Bool}

theorem stopsOutside_lineStart : lineStart.StopsOutside := by
  rintro before text rest captures kept ⟨⟨rfl, rfl⟩, _⟩
  simp

private theorem stopsOutside_of_last {pattern : Pattern}
    (last : ∀ before text rest captures kept, pattern.Reads before text rest captures kept →
      ∃ c, text.getLast? = some c ∧ Text.isWord c = false) : pattern.StopsOutside := by
  intro before text rest captures kept reads d ahead
  obtain ⟨c, isLast, outside⟩ := last _ _ _ _ _ reads
  rw [List.head?_append, List.head?_reverse, isLast, Option.some_or] at ahead
  cases ahead
  exact outside

theorem stopsOutside_literal {written : List Char} {c : Char} (last : written.getLast? = some c)
    (outside : Text.isWord c = false) : (literal written).StopsOutside := by
  refine stopsOutside_of_last ?_
  rintro before _ rest captures kept ⟨rfl, _⟩
  exact ⟨c, last, outside⟩

theorem stopsOutside_many1 (apart : ∀ c, inClass c = true → Text.isWord c = false) :
    (many1 inClass).StopsOutside := by
  refine stopsOutside_of_last fun before text rest captures kept reads => ?_
  obtain ⟨nonempty, inside, _⟩ := reads.of_many1
  have isLast := List.getLast?_eq_some_getLast nonempty
  exact ⟨_, isLast, apart _ (inside _ (List.getLast_mem nonempty))⟩

theorem stopsOutside_blanks1 : blanks1.StopsOutside :=
  stopsOutside_many1 fun _ => Text.isWord_eq_false_of_isBlank

theorem StopsOutside.after (stops : second.StopsOutside) (first : Pattern) :
    (first ++ second).StopsOutside := by
  rintro before _ rest captures kept ⟨start, finish, between, rfl, _, readSecond⟩
  rw [List.reverse_append, List.append_assoc]
  exact stops _ _ _ _ _ readSecond

theorem StopsOutside.orElse (firstStops : first.StopsOutside) (secondStops : second.StopsOutside) :
    (first <|> second).StopsOutside := by
  rintro before text rest captures kept (readFirst | readSecond)
  · exact firstStops _ _ _ _ _ readFirst
  · exact secondStops _ _ _ _ _ readSecond

theorem StopsOutside.many (stops : first.StopsOutside)
    (apart : ∀ c, inClass c = true → Text.isWord c = false) :
    (first ++ many inClass).StopsOutside := by
  rintro before _ rest captures kept ⟨start, run, between, rfl, readFirst, inside, _⟩
  rw [List.reverse_append, List.append_assoc]
  refine forall_mem_head?_append (fun c last => ?_) (stops _ _ _ _ _ readFirst)
  exact apart c (inside c (List.mem_reverse.mp (List.mem_of_head? last)))

theorem StopsOutside.blanks (stops : first.StopsOutside) : (first ++ blanks).StopsOutside :=
  stops.many fun _ => Text.isWord_eq_false_of_isBlank

theorem StopsOutside.optional (stops : first.StopsOutside) (pieceStops : piece.StopsOutside) :
    (first ++ optional piece).StopsOutside := by
  rintro before _ rest captures kept ⟨start, finish, between, rfl, readFirst, readPiece | ⟨rfl, _⟩⟩
  · rw [List.reverse_append, List.append_assoc]
    exact pieceStops _ _ _ _ _ readPiece
  · simpa using stops _ _ _ _ _ readFirst

theorem StopsOutside.repeated (stops : first.StopsOutside) (pieceStops : piece.StopsOutside) :
    (first ++ repeated piece).StopsOutside := by
  rintro before _ rest captures kept ⟨start, rounds, between, rfl, readFirst, readRounds⟩
  rw [List.reverse_append, List.append_assoc]
  have edge := stops _ _ _ _ _ readFirst
  clear readFirst
  -- Each round hands an edge on to the next.
  generalize start.reverse ++ before = earlier at edge readRounds
  induction readRounds with
  | stop => exact edge
  | more first _ ih =>
    rw [List.reverse_append, List.append_assoc]
    exact ih (pieceStops _ _ _ _ _ first)

theorem StopsOutside.repeated1 (stops : piece.StopsOutside) : (repeated1 piece).StopsOutside :=
  stops.repeated stops

theorem StopsOutside.capture (stops : piece.StopsOutside) (slot : Slot) :
    (capture slot piece).StopsOutside := by
  rintro before text rest captures kept ⟨inside, readPiece, _⟩
  exact stops _ _ _ _ _ readPiece

theorem StopsOutside.captured (stops : (first ++ second).StopsOutside) (slot : Slot) :
    (first ++ Pattern.capture slot second).StopsOutside := by
  rintro before text rest captures kept
    ⟨start, finish, between, rfl, readFirst, inside, readSecond, _⟩
  exact stops _ _ _ _ _ ⟨start, finish, between, rfl, readFirst, readSecond⟩

end StopsOutside

/-!
## What is read behind a word
-/

/-- Whatever the pattern reads starts at a place with no word character right after it. -/
def BreaksWord (pattern : Pattern) : Prop :=
  ∀ before text rest captures kept, pattern.Reads before text rest captures kept →
    ∀ c ∈ (text ++ rest).head?, Text.isWord c = false

section BreaksWord

variable {first second piece : Pattern}

theorem breaksWord_lineEnd : lineEnd.BreaksWord := by
  rintro before text rest captures kept ⟨⟨rfl, rfl⟩, _⟩
  simp

theorem breaksWord_literal {written : List Char} {c : Char} (first : written.head? = some c)
    (outside : Text.isWord c = false) :
    (literal written).BreaksWord := by
  rintro before _ rest captures kept ⟨rfl, _⟩ d ahead
  rw [List.head?_append, first, Option.some_or] at ahead
  cases ahead
  exact outside

theorem breaksWord_char {c : Char} (outside : Text.isWord c = false) : (char c).BreaksWord :=
  breaksWord_literal rfl outside

theorem breaksWord_oneOf {included : List Char} (apart : ∀ c ∈ included, Text.isWord c = false) :
    (one (oneOf included)).BreaksWord := by
  rintro before _ rest captures kept ⟨⟨d, rfl, listed⟩, _⟩ c ahead
  cases ahead
  exact isWord_eq_false_of_oneOf apart _ listed

theorem BreaksWord.before (breaks : first.BreaksWord) (second : Pattern) :
    (first ++ second).BreaksWord := by
  rintro before _ rest captures kept ⟨start, finish, between, rfl, readFirst, _⟩
  rw [List.append_assoc]
  exact breaks _ _ _ _ _ readFirst

theorem BreaksWord.orElse (firstBreaks : first.BreaksWord) (secondBreaks : second.BreaksWord) :
    (first <|> second).BreaksWord := by
  rintro before text rest captures kept (readFirst | readSecond)
  · exact firstBreaks _ _ _ _ _ readFirst
  · exact secondBreaks _ _ _ _ _ readSecond

theorem BreaksWord.capture (breaks : piece.BreaksWord) (slot : Slot) :
    (capture slot piece).BreaksWord := by
  rintro before text rest captures kept ⟨inside, readPiece, _⟩
  exact breaks _ _ _ _ _ readPiece

theorem BreaksWord.afterBlanks (breaks : second.BreaksWord) : (blanks ++ second).BreaksWord := by
  rintro before _ rest captures kept ⟨gap, finish, between, rfl, ⟨blank, _⟩, readSecond⟩
  rw [List.append_assoc]
  refine forall_mem_head?_append (fun c first => ?_) (breaks _ _ _ _ _ readSecond)
  exact Text.isWord_eq_false_of_isBlank (blank c (List.mem_of_head? first))

theorem BreaksWord.afterOptional (breaks : second.BreaksWord) (pieceBreaks : piece.BreaksWord) :
    (optional piece ++ second).BreaksWord := by
  rintro before _ rest captures kept ⟨start, finish, between, rfl, readPiece | ⟨rfl, _⟩, readSecond⟩
  · rw [List.append_assoc]
    exact pieceBreaks _ _ _ _ _ readPiece
  · exact breaks _ finish rest _ _ readSecond

theorem BreaksWord.afterRepeated (breaks : second.BreaksWord) (pieceBreaks : piece.BreaksWord) :
    (repeated piece ++ second).BreaksWord := by
  rintro before _ rest captures kept ⟨rounds, finish, between, rfl, readRounds, readSecond⟩
  rw [List.append_assoc]
  cases readRounds with
  | stop => exact breaks _ finish rest _ _ readSecond
  | more first _ =>
    rw [List.append_assoc]
    exact pieceBreaks _ _ _ _ _ first

end BreaksWord

/-!
## What a slot holds
-/

/-- The two patterns are read in the same way, readings and their order. -/
def Alike (first second : Pattern) : Prop :=
  ∀ place, first.matchAt? place = second.matchAt? place

theorem alike_refl (pattern : Pattern) : pattern.Alike pattern :=
  fun _ => rfl

theorem Alike.assoc {pattern first second third : Pattern}
    (alike : pattern.Alike (first ++ second ++ third)) :
    pattern.Alike (first ++ (second ++ third)) :=
  alike

theorem Alike.thenNothing {pattern first second : Pattern}
    (alike : pattern.Alike (first ++ second)) :
    pattern.Alike (first ++ (second ++ empty)) :=
  alike

/-- Whatever the slot holds after a match is a reading of the piece, and stands apart in the
line. -/
def HoldsApart (pattern : Pattern) (slot : Slot) (piece : Pattern) : Prop :=
  ∀ line found part, pattern.find? line = some found → found.captures.text? slot = some part →
    StandsApart line part ∧ ∃ before rest captures kept, piece.Reads before part rest captures kept

section HoldsApart

variable {pattern front piece back : Pattern} {slot : Slot}

private theorem standsApart_of_edges {before start after : List Char} (part : List Char)
    (left : ∀ c ∈ (start.reverse ++ before).head?, Text.isWord c = false)
    (right : ∀ c ∈ after.head?, Text.isWord c = false) :
    StandsApart (before.reverse ++ (start ++ (part ++ after))) part := by
  refine ⟨before.reverse ++ start, after, by simp, ?_, right⟩
  rw [← List.head?_reverse, List.reverse_append, List.reverse_reverse]
  exact left

/-- The pieces around the slot keep words whole. -/
theorem holdsApart_of_edges (alike : pattern.Alike (front ++ (capture slot piece ++ back)))
    (frontKeeps : front.Keeps slot fun _ => False) (pieceKeeps : piece.Keeps slot fun _ => False)
    (backKeeps : back.Keeps slot fun _ => False) (stops : front.StopsOutside)
    (breaks : back.BreaksWord) :
    pattern.HoldsApart slot piece := by
  intro line found part matched held
  obtain ⟨before, after, rfl, here⟩ := exists_matchAt?_of_find? matched
  rw [alike] at here
  obtain ⟨text, rest, kept, rfl, reads, reached⟩ := readsOnly_read _ _ _ _ _ here
  cases reached
  obtain ⟨start, finish, between, inside, rfl, readFront, readPiece, readBack⟩ :=
    reads.captured frontKeeps pieceKeeps backKeeps held
  rw [List.append_assoc, List.append_assoc]
  exact ⟨standsApart_of_edges part (stops _ _ _ _ _ readFront) (breaks _ _ _ _ _ readBack), _, _, _,
    _, readPiece⟩

/-- A word that is to be long, with something behind it that can be read at the end of the word. -/
theorem holdsApart_of_longest (alike : pattern.Alike (front ++ (capture slot word ++ back)))
    (frontKeeps : front.Keeps slot fun _ => False) (backKeeps : back.Keeps slot fun _ => False)
    (stops : front.StopsOutside) (steady : back.Steady) (outlasts : back.OutlastsRun Text.isWord) :
    pattern.HoldsApart slot word := by
  intro line found part matched held
  obtain ⟨before, after, rfl, here⟩ := exists_matchAt?_of_find? matched
  rw [alike] at here
  obtain ⟨start, rest, between, rfl, readFront, nonempty, isWord, edge⟩ :=
    exists_longest_of_matchAt? frontKeeps backKeeps steady outlasts here held
  exact ⟨standsApart_of_edges part (stops _ _ _ _ _ readFront) edge, before, rest, [], [],
    reads_many1 nonempty isWord _ _ _⟩

theorem holdsApart_of_last (alike : pattern.Alike (front ++ capture slot word))
    (frontKeeps : front.Keeps slot fun _ => False) (stops : front.StopsOutside) :
    pattern.HoldsApart slot word :=
  holdsApart_of_longest alike.thenNothing frontKeeps trivial stops trivial
    (outlastsRun_empty Text.isWord)

/-- A word behind a text that is to be short. -/
theorem holdsApart_of_shortest {skipped : Char → Bool}
    (alike : pattern.Alike (front ++ (few skipped ++ (capture slot word ++ back))))
    (frontKeeps : front.Keeps slot fun _ => False) (backKeeps : back.Keeps slot fun _ => False)
    (stops : front.StopsOutside) (steady : back.Steady) (breaks : back.BreaksWord) :
    pattern.HoldsApart slot word := by
  intro line found part matched held
  obtain ⟨before, after, rfl, here⟩ := exists_matchAt?_of_find? matched
  rw [alike] at here
  obtain ⟨start, _, between, rfl, readFront, onward⟩ := readsOnly_read front _ _ _ _ here
  obtain ⟨gap, _, rfl, gapEdge, success⟩ := exists_first_of_read_few steady (fun _ _ => rfl) onward
  obtain ⟨_, rest, _, rfl, ⟨run, finish, _, rfl, ⟨_, readRun, rfl⟩, readBack⟩, reached⟩ :=
    readsOnly_read (capture slot word ++ back) _ _ _ _ success
  cases reached
  have absent := readRun.absent keeps_word (readFront.absent frontKeeps fun _ => List.not_mem_nil)
  obtain rfl : part = run := readBack.held_eq backKeeps absent held
  have left : ∀ c ∈ ((start ++ gap).reverse ++ before).head?, Text.isWord c = false := by
    rw [List.reverse_append, List.append_assoc]
    refine forall_mem_head?_append ?_ (stops _ _ _ _ _ readFront)
    rw [List.head?_reverse]
    exact gapEdge
  have stands := standsApart_of_edges part left (breaks _ _ _ _ _ readBack)
  exact ⟨by simpa using stands, _, _, _, _, readRun⟩

/-- Behind a word, a word of the pattern itself can only be read if that is the rest of the word. -/
theorem outlastsRun_optionalWord {written : List Char} {follow : Pattern}
    (isWord : ∀ c ∈ written, Text.isWord c = true) (breaks : follow.BreaksWord) :
    (blanks ++ (optional (literal written ++ blanks) ++ follow)).OutlastsRun Text.isWord := by
  intro before left rest text others captures kept inLeft stops split reads
  cases left with
  | nil => exact ⟨text, others, kept, split, reads⟩
  | cons c left =>
    have isWordFirst := inLeft c List.mem_cons_self
    obtain ⟨gap, _, _, rfl, ⟨blank, rfl⟩, ⟨middle, finish, _, rfl, readMiddle, readFollow⟩⟩ := reads
    have edge := breaks _ _ _ _ _ readFollow
    obtain rfl : gap = [] := by
      cases gap with
      | nil => rfl
      | cons d gap =>
        obtain ⟨rfl, _⟩ := List.cons.inj split
        exact absurd ⟨c, blank c List.mem_cons_self, isWordFirst⟩ Text.not_exists_blank_word
    rcases readMiddle with ⟨run, gap, _, rfl, ⟨rfl, rfl⟩, ⟨blank, rfl⟩⟩ | ⟨rfl, rfl⟩
    · have breaksAgain : ∀ c ∈ (gap ++ (finish ++ others)).head?, Text.isWord c = false :=
        forall_mem_head?_append
          (fun c first => Text.isWord_eq_false_of_isBlank (blank c (List.mem_of_head? first))) edge
      have whole : c :: left ++ rest = run ++ (gap ++ (finish ++ others)) := by simpa using split
      have same : c :: left = run := by
        rw [← takeWhile_wordRun inLeft stops, whole, takeWhile_wordRun isWord breaksAgain]
      rw [same] at whole ⊢
      rw [List.append_cancel_left whole]
      refine ⟨gap ++ finish, others, kept, by simp, gap, finish, _, rfl, ⟨blank, rfl⟩, [], finish,
        _, rfl, .inr ⟨rfl, rfl⟩, ?_⟩
      simpa using readFollow
    · simp only [List.nil_append] at split
      rw [← split] at edge
      rw [edge c rfl] at isWordFirst
      cases isWordFirst

end HoldsApart

end Pattern

end Symtab
