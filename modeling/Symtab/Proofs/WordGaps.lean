import Symtab.Proofs.LineForms

/-!
# White space between words

A rule that looks for a keyword and a name behind it needs a word of the line with white space and
another word right behind it. A sign that is neither blank nor part of a word keeps the words on its
two sides apart, so a line is gone through from sign to sign.
-/

set_option autoImplicit false

namespace Symtab

/-- The word starts where no other word ends, and has white space and another word right behind
it. -/
def LeadsWord (line : List Char) (word : Word) : Prop :=
  ∃ before gap next rest, line = before ++ (word.text ++ (gap ++ next :: rest)) ∧
    (∀ c ∈ before.getLast?, Text.isWord c = false) ∧ gap ≠ [] ∧ (∀ c ∈ gap, Text.isBlank c = true) ∧
      Text.isWord next = true

/-- No word of the line has white space and another word right behind it. -/
def WordsApart (line : List Char) : Prop :=
  ∀ word, ¬LeadsWord line word

private theorem forall_mem_getLast?_of_append {property : Char → Prop} {start finish : List Char}
    (last : ∀ c ∈ (start ++ finish).getLast?, property c) : ∀ c ∈ finish.getLast?, property c := by
  intro c isLast
  have nonempty : finish ≠ [] := List.ne_nil_of_mem (List.mem_of_getLast? isLast)
  exact last c (by rwa [List.getLast?_append_of_ne_nil _ nonempty])

/-- A part of a line that does not hold a sign stands on one side of it. -/
theorem before_or_behind {sign : Char} {start rest before part after : List Char}
    (absent : sign ∉ part) (nonempty : part ≠ [])
    (split : start ++ sign :: rest = before ++ (part ++ after)) :
    (∃ between, start = before ++ (part ++ between)) ∨
      ∃ between, before = start ++ sign :: between ∧ rest = between ++ (part ++ after) := by
  obtain ⟨c, others, rfl⟩ := List.exists_cons_of_ne_nil nonempty
  rcases List.append_eq_append_iff.mp split with ⟨between, rfl, behind⟩ | ⟨left, rfl, front⟩
  · cases between with
    | nil => exact absurd (List.cons.inj behind).1 (List.ne_of_not_mem_cons absent)
    | cons d between =>
      obtain ⟨rfl, rfl⟩ := List.cons.inj behind
      exact .inr ⟨between, rfl, rfl⟩
  · rcases List.append_eq_append_iff.mp front with ⟨between, rfl, _⟩ | ⟨finish, inside, behind⟩
    · exact .inl ⟨between, rfl⟩
    · cases finish with
      | nil => exact .inl ⟨[], by rw [inside, List.append_nil, List.append_nil]⟩
      | cons d finish =>
        obtain ⟨rfl, -⟩ := List.cons.inj behind
        exact absurd (by rw [inside]; simp) absent

namespace LeadsWord

variable {line start rest : List Char} {word : Word}

theorem of_cons {c : Char} (outside : Text.isWord c = false) (leads : LeadsWord (c :: line) word) :
    LeadsWord line word := by
  obtain ⟨before, gap, next, rest, split, edge, leads⟩ := leads
  cases before with
  | nil =>
    obtain ⟨d, others, spelled, isWord⟩ := word.exists_first
    rw [spelled] at split
    rw [(List.cons.inj split).1, isWord] at outside
    cases outside
  | cons d before =>
    have edgeBehind := forall_mem_getLast?_of_append (List.singleton_append ▸ edge)
    exact ⟨before, gap, next, rest, (List.cons.inj split).2, edgeBehind, leads⟩

private theorem of_concat {c : Char} (outside : Text.isWord c = false)
    (leads : LeadsWord (line ++ [c]) word) : LeadsWord line word := by
  obtain ⟨before, gap, next, rest, split, edge, nonempty, blank, isWord⟩ := leads
  rcases List.eq_nil_or_concat rest with rfl | ⟨others, d, rfl⟩
  · have same : line ++ [c] = before ++ (word.text ++ gap) ++ [next] := by simpa using split
    rw [(List.append_singleton_inj.mp same).2, isWord] at outside
    cases outside
  · have same : line ++ [c] = before ++ (word.text ++ (gap ++ next :: others)) ++ [d] := by
      simpa using split
    exact ⟨before, gap, next, others, (List.append_singleton_inj.mp same).1, edge, nonempty,
      blank, isWord⟩

/-- A sign is in no part of a line that starts and ends with a word and is blank in between. -/
theorem of_append_cons {sign : Char} (visible : Text.isBlank sign = false)
    (outside : Text.isWord sign = false) (leads : LeadsWord (start ++ sign :: rest) word) :
    LeadsWord start word ∨ LeadsWord rest word := by
  obtain ⟨before, gap, next, after, split, edge, nonempty, blank, isWord⟩ := leads
  have inGap : sign ∉ gap := fun member => by
    rw [blank sign member] at visible
    cases visible
  have isNext : sign ≠ next := by
    rintro rfl
    rw [isWord] at outside
    cases outside
  have absent : sign ∉ word.text ++ (gap ++ [next]) := by simp [word.not_mem outside, inGap, isNext]
  have around : start ++ sign :: rest = before ++ (word.text ++ (gap ++ [next]) ++ after) := by
    simpa using split
  rcases before_or_behind absent (by simp) around with ⟨between, rfl⟩ | ⟨between, rfl, rfl⟩
  · exact .inl ⟨before, gap, next, between, by simp, edge, nonempty, blank, isWord⟩
  · refine .inr ⟨between, gap, next, after, by simp, ?_, nonempty, blank, isWord⟩
    exact forall_mem_getLast?_of_append (List.append_cons .. ▸ edge)

/-- In a line that starts with a word and a space, that word leads, or one behind the space. -/
theorem of_word_space (first : Word) (leads : LeadsWord (first.text ++ ' ' :: rest) word) :
    word = first ∨ LeadsWord rest word := by
  obtain ⟨before, gap, next, after, split, edge, leads⟩ := leads
  obtain ⟨d, others, spelled, isWord⟩ := word.exists_first
  rcases List.append_eq_append_iff.mp split with ⟨between, rfl, behind⟩ | ⟨left, inside, front⟩
  · cases between with
    | nil =>
      rw [spelled] at behind
      rw [← (List.cons.inj behind).1] at isWord
      exact absurd isWord (by decide)
    | cons c between =>
      obtain ⟨rfl, rfl⟩ := List.cons.inj behind
      exact .inr ⟨between, gap, next, after, rfl,
        forall_mem_getLast?_of_append (List.append_cons .. ▸ edge), leads⟩
  · cases last : before.getLast? with
    | none =>
      obtain rfl := List.getLast?_eq_none_iff.mp last
      obtain ⟨g, gaps, rfl⟩ := List.exists_cons_of_ne_nil leads.1
      have notWord : Text.isWord g = false :=
        Text.isWord_eq_false_of_isBlank (leads.2.1 g List.mem_cons_self)
      exact .inl (Word.text_inj.mp (eq_of_wordRuns split first.isWord word.isWord (by decide)
        notWord).symm)
    | some c =>
      have inWord : c ∈ first.text := by
        rw [inside]
        exact List.mem_append_left left (List.mem_of_getLast? last)
      exact absurd (first.isWord c inWord) (by simp [edge c last])

private theorem exists_blank (leads : LeadsWord line word) : ∃ c ∈ line, Text.isBlank c = true := by
  obtain ⟨before, gap, next, rest, rfl, -, nonempty, blank, -⟩ := leads
  obtain ⟨c, others, rfl⟩ := List.exists_cons_of_ne_nil nonempty
  exact ⟨c, by simp, blank c List.mem_cons_self⟩

end LeadsWord

namespace WordsApart

variable {line start rest : List Char}

theorem cons {c : Char} (outside : Text.isWord c = false) (apart : WordsApart line) :
    WordsApart (c :: line) :=
  fun word leads => apart word (leads.of_cons outside)

theorem concat {c : Char} (outside : Text.isWord c = false) (apart : WordsApart line) :
    WordsApart (line ++ [c]) :=
  fun word leads => apart word (leads.of_concat outside)

theorem append_cons {sign : Char} (visible : Text.isBlank sign = false)
    (outside : Text.isWord sign = false) (before : WordsApart start) (behind : WordsApart rest) :
    WordsApart (start ++ sign :: rest) :=
  fun word leads => (leads.of_append_cons visible outside).elim (before word) (behind word)

theorem of_visible (visible : ∀ c ∈ line, Text.isBlank c = false) : WordsApart line := by
  intro word leads
  obtain ⟨c, member, blank⟩ := leads.exists_blank
  rw [visible c member] at blank
  cases blank

end WordsApart

/-- A rule for a keyword with a name behind it finds a match only where such a keyword leads another
word. -/
theorem Pattern.find?_eq_none_of_not_leadsWord {keywords : List String} {keyword : Pattern}
    {slot : Slot}
    (isKeyword : ∀ before text rest captures kept, keyword.Reads before text rest captures kept →
      ∃ written ∈ keywords, text = written.toList)
    (areWords : ∀ written ∈ keywords, written ≠ "" ∧ ∀ c ∈ written.toList, Text.isWord c = true)
      {line : List Char}
    (leadsNone : ∀ word : Word, String.ofList word.text ∈ keywords → ¬LeadsWord line word) :
    (wordEdge ++ keyword ++ blanks1 ++ capture slot word).find? line = none := by
  cases matched : (wordEdge ++ keyword ++ blanks1 ++ capture slot word).find? line with
  | none => rfl
  | some found =>
    obtain ⟨before, text, rest, kept, rfl, reads, _⟩ := isMatch_of_find? matched
    obtain ⟨_, name, _, rfl, ⟨_, gap, _, rfl, readStart, readGap⟩, _, readName, _⟩ := reads
    obtain ⟨_, spelled, _, rfl, ⟨⟨rfl, edge⟩, rfl⟩, readKeyword⟩ := readStart
    obtain ⟨written, member, rfl⟩ := isKeyword _ _ _ _ _ readKeyword
    obtain ⟨nonempty, isWord⟩ := areWords written member
    obtain ⟨gapNonempty, blank, _⟩ := readGap.of_many1
    obtain ⟨nameNonempty, nameWord, _⟩ := readName.of_many1
    obtain ⟨next, others, rfl⟩ := List.exists_cons_of_ne_nil nameNonempty
    let word : Word := ⟨written.toList, by simpa using nonempty, isWord⟩
    have atEdge :
        Cursor.atWordEdge ⟨before, word.text ++ (gap ++ next :: others ++ rest)⟩ = true := by
      simpa [word] using edge
    refine absurd ?_ (leadsNone word (by simpa [word] using member))
    exact ⟨before.reverse, gap, next, others ++ rest, by simp [word],
      by simpa using word.isWord_before atEdge, gapNonempty, blank,
      nameWord next List.mem_cons_self⟩

end Symtab
