import Mathlib.Data.List.TakeWhile
import Symtab.Proofs.Repetition

/-!
# Every reading is tried

A reading after which the rest of a match succeeds is found, unless one that is preferred to it is
found first. This tells the match that is found from all the others: a run that is to be long goes
as far as its class does, provided that what follows can still be read there, and a run that is to
be short is the first after which what follows can be read.
-/

set_option autoImplicit false

namespace Symtab.Pattern

/-- Every round of a repetition in the pattern reads something. -/
@[simp]
def Steady : Pattern → Prop
  | .empty | .literal _ | .one _ | .many _ | .few _ | .lineStart | .lineEnd | .wordEdge => True
  | .sequence first second | .choice first second => first.Steady ∧ second.Steady
  | .repeated piece => (¬piece.Passes fun _ => false) ∧ piece.Steady
  | .capture _ piece => piece.Steady

section Steady

variable {first second piece : Pattern}

@[simp] theorem steady_append : (first ++ second).Steady ↔ first.Steady ∧ second.Steady := Iff.rfl

@[simp] theorem steady_orElse : (first <|> second).Steady ↔ first.Steady ∧ second.Steady := Iff.rfl

@[simp] theorem steady_optional : (optional piece).Steady ↔ piece.Steady := by
  simp [optional]

@[simp] theorem steady_text (written : String) : (text written).Steady := trivial

@[simp] theorem steady_char (c : Char) : (char c).Steady := trivial

@[simp] theorem steady_blanks : blanks.Steady := trivial

end Steady

private theorem mem_reachOver {inClass : Char → Bool} {run : List Char}
    (inside : ∀ c ∈ run, inClass c = true) (nearer : List Cursor) (before rest : List Char) :
    ⟨run.reverse ++ before, rest⟩ ∈ Cursor.reachOver inClass nearer before (run ++ rest) := by
  induction run generalizing nearer before with
  | nil =>
    rw [List.nil_append, reachOver_eq_append]
    cases rest with
    | nil => simp [Cursor.reachOver]
    | cons c rest =>
      rw [Cursor.reachOver]
      split
      · rw [reachOver_eq_append]
        simp
      · simp
  | cons c run ih =>
    obtain ⟨belongs, insideRun⟩ := List.forall_mem_cons.mp inside
    have member := ih insideRun (⟨before, c :: (run ++ rest)⟩ :: nearer) (c :: before)
    simpa [Cursor.reachOver, belongs] using member

theorem Takes.isSome {α : Type} {pattern : Pattern} {place later : Cursor}
    {captures kept : Captures} (read : pattern.Takes place later captures kept)
    {next : Continuation α} (goesOn : (next later kept).isSome) :
    (pattern.read place captures next).isSome := by
  obtain ⟨result, success⟩ := Option.isSome_iff_exists.mp goesOn
  rw [read _ next result success]
  rfl

private theorem isSome_orElse {α : Type} {first : Option α} {second : Unit → Option α} :
    (first.orElse second).isSome ↔ first.isSome ∨ (second ()).isSome := by
  cases first <;> simp

/-- Where there is a reading after which it goes on whatever was kept, something is found. -/
theorem Reads.isSome_read {α : Type} {pattern : Pattern} (steady : pattern.Steady)
    {before text rest : List Char} {captures kept : Captures}
    (reads : pattern.Reads before text rest captures kept) {next : Continuation α}
    (goesOn : ∀ others, (next ⟨text.reverse ++ before, rest⟩ others).isSome) (held : Captures) :
    (pattern.read ⟨before, text ++ rest⟩ held next).isSome := by
  induction pattern generalizing before text rest captures kept held next with
  | empty =>
    obtain ⟨rfl, _⟩ := reads
    exact goesOn held
  | literal written =>
    obtain ⟨rfl, _⟩ := reads
    exact (takes_literal text before rest held).isSome (goesOn held)
  | one inClass =>
    obtain ⟨⟨c, rfl, belongs⟩, _⟩ := reads
    exact (takes_one belongs before rest held).isSome (goesOn held)
  | many inClass =>
    exact List.findSome?_isSome_iff.mpr ⟨_, mem_reachOver reads.1 [] before rest, goesOn held⟩
  | few inClass =>
    exact List.findSome?_isSome_iff.mpr
      ⟨_, List.mem_reverse.mpr (mem_reachOver reads.1 [] before rest), goesOn held⟩
  | sequence first second firstFound secondFound =>
    obtain ⟨start, finish, between, rfl, readFirst, readSecond⟩ := reads
    rw [List.append_assoc]
    refine firstFound steady.1 readFirst
      (fun others => secondFound steady.2 readSecond (fun others => ?_) others) held
    simpa using goesOn others
  | choice first second firstFound secondFound =>
    rw [read, isSome_orElse]
    rcases reads with readFirst | readSecond
    · exact .inl (firstFound steady.1 readFirst goesOn held)
    · exact .inr (secondFound steady.2 readSecond goesOn held)
  | repeated piece pieceFound =>
    obtain ⟨stuck, pieceSteady⟩ := steady
    induction reads generalizing held with
    | stop =>
      rw [read_repeated stuck, isSome_orElse]
      exact .inr (goesOn held)
    | more readFirst _ othersFound =>
      rw [read_repeated stuck, isSome_orElse, List.append_assoc]
      refine .inl (pieceFound pieceSteady readFirst
        (fun others => othersFound (fun others => ?_) others) held)
      simpa using goesOn others
  | capture slot piece pieceFound =>
    obtain ⟨inside, readPiece, _⟩ := reads
    exact pieceFound steady readPiece (fun others => goesOn ((slot, _) :: others)) held
  | lineStart =>
    obtain ⟨⟨rfl, rfl⟩, _⟩ := reads
    exact goesOn held
  | lineEnd =>
    obtain ⟨⟨rfl, rfl⟩, _⟩ := reads
    exact goesOn held
  | wordEdge =>
    obtain ⟨⟨rfl, edge⟩, _⟩ := reads
    exact (takes_wordEdge edge held).isSome (goesOn held)

/-!
## The match that is found
-/

private theorem exists_matchAt?_of_findFrom? {pattern : Pattern} {before after : List Char}
    {found : Match} (matched : pattern.findFrom? before after = some found) :
    ∃ earlier later, before.reverse ++ after = earlier.reverse ++ later ∧
    pattern.matchAt? ⟨earlier, later⟩ = some found := by
  induction after generalizing before with
  | nil => exact ⟨before, [], rfl, matched⟩
  | cons c rest ih =>
    cases here : pattern.matchAt? ⟨before, c :: rest⟩ with
    | none =>
      simp only [findFrom?, here] at matched
      obtain ⟨earlier, later, split, matchedLater⟩ := ih matched
      exact ⟨earlier, later, by simpa using split, matchedLater⟩
    | some first =>
      simp only [findFrom?, here] at matched
      cases matched
      exact ⟨before, c :: rest, rfl, here⟩

theorem exists_matchAt?_of_find? {pattern : Pattern} {line : List Char} {found : Match}
    (matched : pattern.find? line = some found) :
    ∃ before after, line = before.reverse ++ after ∧
    pattern.matchAt? ⟨before, after⟩ = some found :=
  exists_matchAt?_of_findFrom? matched

section Runs

variable {inClass : Char → Bool} {before after : List Char} {captures : Captures}

private theorem read_few_cons {α : Type} (c : Char) (rest : List Char) (next : Continuation α) :
    (few inClass).read ⟨before, c :: rest⟩ captures next =
      (next ⟨before, c :: rest⟩ captures).orElse fun _ =>
        if inClass c then (few inClass).read ⟨c :: before, rest⟩ captures next else none := by
  have places : Cursor.reach inClass ⟨before, c :: rest⟩ =
      (if inClass c then Cursor.reach inClass ⟨c :: before, rest⟩ else []) ++
        [⟨before, c :: rest⟩] := by
    rw [Cursor.reach, Cursor.reachOver]
    split
    · exact reachOver_eq_append inClass _ _ _
    · rfl
  rw [read, places, List.reverse_append, List.reverse_singleton, List.singleton_append,
    List.findSome?_cons]
  cases next ⟨before, c :: rest⟩ captures with
  | some result => rfl
  | none =>
    cases inClass c with
    | true => rfl
    | false => rfl

/-- A run that is to be short ends at the first place from which it goes on. -/
theorem exists_shortest_of_read_few {α : Type} {next : Continuation α} {result : α}
    (success : (few inClass).read ⟨before, after⟩ captures next = some result) :
    ∃ run rest, after = run ++ rest ∧ next ⟨run.reverse ++ before, rest⟩ captures = some result ∧
      ∀ taken left, run = taken ++ left → left ≠ [] →
      next ⟨taken.reverse ++ before, left ++ rest⟩ captures = none := by
  have atOnce : ∀ {before after : List Char}, next ⟨before, after⟩ captures = some result →
      ∃ run rest, after = run ++ rest ∧ next ⟨run.reverse ++ before, rest⟩ captures = some result ∧
        ∀ taken left, run = taken ++ left → left ≠ [] →
          next ⟨taken.reverse ++ before, left ++ rest⟩ captures = none := by
    intro before after goesOn
    refine ⟨[], after, rfl, goesOn, fun taken left split nonempty => ?_⟩
    exact absurd (List.append_eq_nil_iff.mp split.symm).2 nonempty
  induction after generalizing before with
  | nil => exact atOnce (by simpa [read, Cursor.reach, Cursor.reachOver] using success)
  | cons c rest ih =>
    rw [read_few_cons] at success
    cases here : next ⟨before, c :: rest⟩ captures with
    | some found =>
      rw [here] at success
      exact atOnce (here.trans success)
    | none =>
      simp only [here, Option.orElse_none] at success
      split at success
      · obtain ⟨run, others, rfl, goesOn, fails⟩ := ih success
        refine ⟨c :: run, others, rfl, by simpa using goesOn, fun taken left split nonempty => ?_⟩
        cases taken with
        | nil =>
          obtain rfl : c :: run = left := split
          exact here
        | cons d taken =>
          obtain ⟨rfl, tails⟩ := List.cons.inj split
          simpa using fails taken left tails nonempty
      · cases success

/-- Behind a text that is to be short, a run starts where its class does. -/
theorem exists_first_of_read_few {α : Type} {skipped : Char → Bool} {back : Pattern} {slot : Slot}
    (steady : back.Steady) {next : Continuation α} (goesOn : ∀ later kept, (next later kept).isSome)
    {result : α}
    (success : (few skipped ++ (capture slot (many1 inClass) ++ back)).read ⟨before, after⟩ captures
      next = some result) :
    ∃ gap rest, after = gap ++ rest ∧ (∀ c ∈ gap.getLast?, inClass c = false) ∧
      (capture slot (many1 inClass) ++ back).read ⟨gap.reverse ++ before, rest⟩ captures next =
        some result := by
  rw [read_append] at success
  obtain ⟨gap, rest, rfl, onward, fails⟩ := exists_shortest_of_read_few success
  refine ⟨gap, rest, rfl, fun c last => Bool.eq_false_iff.mpr fun belongs => ?_, onward⟩
  obtain ⟨taken, rfl⟩ := List.getLast?_eq_some_iff.mp last
  obtain ⟨_, others, kept, rfl, ⟨run, finish, _, rfl, ⟨held, readRun, rfl⟩, readBack⟩, _⟩ :=
    readsOnly_read (capture slot (many1 inClass) ++ back) _ _ _ _ onward
  obtain ⟨_, inside, _⟩ := readRun.of_many1
  -- With one character less in front of it, the run could have been longer by that character.
  have readLonger :
      (capture slot (many1 inClass)).Reads (taken.reverse ++ before) (c :: run)
        (finish ++ others) captures
      ((slot, c :: run) :: captures) :=
    ⟨captures, reads_many1 (by simp) (by simpa [belongs] using inside) _ _ _, rfl⟩
  have readOn :
      back.Reads ((c :: run).reverse ++ (taken.reverse ++ before)) finish others
        ((slot, run) :: held) kept := by
    simpa using readBack
  have found :
      ((capture slot (many1 inClass) ++ back).read ⟨taken.reverse ++ before,
        c :: run ++ (finish ++ others)⟩ captures
      next).isSome := by
    rw [read_append]
    exact readLonger.isSome_read (by simp [many1])
      (fun _ => readOn.isSome_read steady (fun _ => goesOn _ _) _) captures
  have failed := fails taken [c] rfl (by simp)
  rw [List.append_assoc, List.singleton_append, ← List.cons_append] at failed
  rw [failed] at found
  cases found

/-- Where the pattern can be read inside of a run of the class, it can be read behind the run as
well. -/
def OutlastsRun (inClass : Char → Bool) (pattern : Pattern) : Prop :=
  ∀ before left rest text others captures kept, (∀ c ∈ left, inClass c = true) →
    (∀ c ∈ rest.head?, inClass c = false) →
    left ++ rest = text ++ others → pattern.Reads before text others captures kept →
      ∃ finish remaining kept, rest = finish ++ remaining ∧
        pattern.Reads (left.reverse ++ before) finish remaining captures kept

theorem outlastsRun_empty (inClass : Char → Bool) : empty.OutlastsRun inClass :=
  fun _ _ rest _ _ captures _ _ _ _ _ => ⟨[], rest, captures, rfl, rfl, rfl⟩

private theorem exists_longest_run (inClass : Char → Bool) (text : List Char) :
    ∃ run rest, text = run ++ rest ∧ (∀ c ∈ run, inClass c = true) ∧
    ∀ c ∈ rest.head?, inClass c = false := by
  refine ⟨_, _, List.takeWhile_append_dropWhile.symm, fun c => List.mem_takeWhile_imp,
    fun c first => ?_⟩
  have beyond := List.head?_dropWhile_not inClass text
  rw [first] at beyond
  exact beyond

/-- A run that is to be long goes as far as its class does if what comes next can be read there. -/
theorem exists_longest_of_read {α : Type} {back : Pattern} {slot : Slot} (steady : back.Steady)
    (outlasts : back.OutlastsRun inClass) {next : Continuation α}
    (goesOn : ∀ later kept, (next later kept).isSome) {result : α}
    (success : (capture slot (many1 inClass) ++ back).read ⟨before, after⟩ captures next =
      some result) :
    ∃ run rest, after = run ++ rest ∧ run ≠ [] ∧ (∀ c ∈ run, inClass c = true) ∧
    (∀ c ∈ rest.head?, inClass c = false) ∧
      back.read ⟨run.reverse ++ before, rest⟩ ((slot, run) :: captures) next = some result := by
  obtain ⟨_, others, _, split, ⟨short, finish, _, rfl, ⟨_, readShort, rfl⟩, readBack⟩, _⟩ :=
    readsOnly_read (capture slot (many1 inClass) ++ back) _ _ _ _ success
  obtain ⟨nonempty, isRun, _⟩ := readShort.of_many1
  -- What is read of the run is extended by what the class has to follow.
  obtain ⟨left, rest, further, inLeft, stops⟩ := exists_longest_run inClass (finish ++ others)
  obtain ⟨last, remaining, _, rfl, readLast⟩ :=
    outlasts _ left rest finish others _ _ inLeft stops further.symm readBack
  have isLong : ∀ c ∈ short ++ left, inClass c = true := List.forall_mem_append.mpr ⟨isRun, inLeft⟩
  have whole : after = short ++ left ++ (last ++ remaining) := by
    rw [List.append_assoc, ← further, ← List.append_assoc]
    exact split
  obtain ⟨preferred, read⟩ := Option.isSome_iff_exists.mp
    (readLast.isSome_read steady (fun kept => goesOn _ kept) ((slot, short ++ left) :: captures))
  have takes := (takes_many1 (by simp [nonempty]) isLong stops before captures).capture slot
  rw [← List.append_assoc, ← List.reverse_append] at read
  have first := takes _ (fun later kept => back.read later kept next) preferred read
  rw [whole, read_append, first] at success
  exact ⟨short ++ left, last ++ remaining, whole, by simp [nonempty], isLong, stops,
    read.trans success⟩

/-- The same for the run that a slot holds in the match that is found. -/
theorem exists_longest_of_matchAt? {front back : Pattern} {slot : Slot}
    (frontKeeps : front.Keeps slot fun _ => False) (backKeeps : back.Keeps slot fun _ => False)
    (steady : back.Steady) (outlasts : back.OutlastsRun inClass) {found : Match}
    (matched : (front ++ (capture slot (many1 inClass) ++ back)).matchAt? ⟨before, after⟩ =
      some found)
    {part : List Char} (held : found.captures.text? slot = some part) :
    ∃ start rest between, after = start ++ (part ++ rest) ∧
    front.Reads before start (part ++ rest) [] between ∧
      part ≠ [] ∧ (∀ c ∈ part, inClass c = true) ∧ ∀ c ∈ rest.head?, inClass c = false := by
  obtain ⟨start, _, between, rfl, readFront, onward⟩ := readsOnly_read front _ _ _ _ matched
  obtain ⟨run, rest, rfl, nonempty, isRun, stops, success⟩ :=
    exists_longest_of_read steady outlasts (fun _ _ => rfl) onward
  obtain ⟨_, _, kept, _, readBack, reached⟩ := readsOnly_read back _ _ _ _ success
  cases reached
  obtain rfl : part = run :=
    readBack.held_eq backKeeps (readFront.absent frontKeeps fun _ => List.not_mem_nil) held
  exact ⟨start, rest, between, rfl, readFront, nonempty, isRun, stops⟩

end Runs

end Symtab.Pattern
