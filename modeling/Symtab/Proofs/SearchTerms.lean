import Symtab.Proofs.Excerpt
import Symtab.Query

/-!
# Terms that are found as they are written

A search compares lower-case forms, and the form of a capital sigma depends on the characters around
it. A term that stands in a name is found there if every capital sigma has the form there that it
has in the term alone. The terms that are found wherever they stand are those in which the
characters around each capital sigma leave nothing open.
-/

set_option autoImplicit false

namespace Symtab

namespace Text

private theorem occursIn_iff_isInfix (needle text : List Char) :
    occursIn needle text = true ↔ needle <:+: text := by
  cases needle with
  | nil =>
    have found : occursIn [] text = true := by
      cases text with
      | nil => rfl
      | cons c rest => simp [occursIn, cut?]
    simp [found]
  | cons c rest =>
    rw [occursIn, ← Option.not_isNone, Bool.not_eq_true', Option.isNone_eq_false_iff,
      Option.isSome_iff_ne_none, Ne, cut?_eq_none_iff (List.cons_ne_nil c rest), not_not]

/-!
## Lower-case forms inside a text
-/

/-- The lower-case form of a text between `before`, nearest character first, and `after`. -/
def lowerBetween (before after : List Char) : List Char → List Char
  | [] => []
  | c :: rest =>
    (if c = 'Σ' then [lowerSigma before (rest ++ after)] else lowerChar c) ++
      lowerBetween (c :: before) after rest

private theorem lowerAfter_append (before text after : List Char) :
    lowerAfter before (text ++ after) =
      lowerBetween before after text ++ lowerAfter (text.reverse ++ before) after := by
  induction text generalizing before with
  | nil => rfl
  | cons c rest ih =>
    rw [List.cons_append, lowerAfter, lowerBetween, ih, List.append_assoc, List.reverse_cons,
      List.append_assoc]
    rfl

private theorem lower_eq_lowerBetween (text : List Char) :
    lower text = lowerBetween [] [] text := by
  simpa [lower, lowerAfter] using lowerAfter_append [] text []

private theorem lower_append_append (front term back : List Char) :
    lower (front ++ term ++ back) =
      lowerBetween [] (term ++ back) front ++ lowerBetween front.reverse back term ++
      lowerAfter (term.reverse ++ front.reverse) back := by
  rw [lower, List.append_assoc, lowerAfter_append, lowerAfter_append, List.append_nil,
    List.append_assoc]

/-- Every capital sigma of the text has the property, given what stands before it, nearest character
first, and after it. -/
def EachSigma (property : List Char → List Char → Prop) (text : List Char) : Prop :=
  ∀ before after, text = before ++ 'Σ' :: after → property before.reverse after

private theorem eachSigma_cons {property : List Char → List Char → Prop} {c : Char}
    {rest : List Char} :
    EachSigma property (c :: rest) ↔
      (c = 'Σ' → property [] rest) ∧
      EachSigma (fun before after => property (before ++ [c]) after) rest := by
  constructor
  · intro each
    refine ⟨fun sigma => each [] rest (by rw [sigma]; rfl), fun before after split => ?_⟩
    simpa using each (c :: before) after (by rw [split]; rfl)
  · rintro ⟨first, others⟩ before after split
    cases before with
    | nil =>
      obtain ⟨sigma, rfl⟩ := List.cons.inj split
      exact first sigma
    | cons d before =>
      obtain ⟨rfl, below⟩ := List.cons.inj split
      simpa using others before after below

/-- The neighbours of a text matter to its lower-case form through its capital sigmas only. -/
theorem lowerBetween_eq_iff (text before after left right : List Char) :
    lowerBetween before after text = lowerBetween left right text ↔
      EachSigma
        (fun earlier later => lowerSigma (earlier ++ before) (later ++ after) =
          lowerSigma (earlier ++ left) (later ++ right))
        text := by
  induction text generalizing before left with
  | nil => exact iff_of_true rfl fun earlier later split => by simp at split
  | cons c rest ih =>
    have below := ih (c :: before) (c :: left)
    rw [eachSigma_cons, lowerBetween, lowerBetween]
    by_cases sigma : c = 'Σ'
    · simpa [sigma] using fun _ => by simpa [sigma] using below
    · simpa [sigma] using below

private theorem length_lowerBetween (text before after left right : List Char) :
    (lowerBetween before after text).length = (lowerBetween left right text).length := by
  induction text generalizing before left with
  | nil => rfl
  | cons c rest ih =>
    rw [lowerBetween, lowerBetween, List.length_append, List.length_append,
      ih (c :: before) (c :: left)]
    split
    · rfl
    · rfl

/-!
## Capital sigmas
-/

/-- The first character of a text that is not passed over when looking for a cased one. -/
def decisive? (text : List Char) : Option Char :=
  text.find? (!caseIgnorable.contains ·)

private theorem meetsCased_eq (text : List Char) :
    meetsCased text = (decisive? text).any cased.contains := by
  induction text with
  | nil => rfl
  | cons c rest ih =>
    cases ignorable : caseIgnorable.contains c with
    | true => simpa [meetsCased, decisive?, ignorable] using ih
    | false => simp [meetsCased, decisive?, ignorable]

private theorem decisive?_append (text more : List Char) :
    decisive? (text ++ more) = (decisive? text).or (decisive? more) :=
  List.find?_append

/-- Whether the characters around a capital sigma decide its form, whatever stands further away: one
without case before it does, a cased one after it does, and one on either side that is not passed
over do. -/
def sigmaSettled (before after : List Char) : Bool :=
  match decisive? before, decisive? after with
  | some _, some _ => true
  | some c, none => !cased.contains c
  | none, some c => cased.contains c
  | none, none => false

private theorem lowerSigma_of_settled {before after : List Char}
    (settled : sigmaSettled before after = true) (left right : List Char) :
    lowerSigma (before ++ left) (after ++ right) = lowerSigma before after := by
  simp only [lowerSigma, meetsCased_eq, decisive?_append]
  unfold sigmaSettled at settled
  split at settled
  · next c d first second => simp [first, second]
  · next c first _ =>
    have uncased : cased.contains c = false := by simpa using settled
    simp [first, uncased]
  · next c _ second => simp [second, settled]
  · cases settled

/-- A letter with case next to the text on one of its sides turns a form that is not settled into
the other. -/
theorem lowerSigma_ne_of_not_settled {before after : List Char}
    (unsettled : sigmaSettled before after = false) {c : Char} (visible : decisive? [c] = some c)
    (hasCase : cased.contains c = true) :
    lowerSigma (before ++ [c]) after ≠ lowerSigma before after ∨
    lowerSigma before (after ++ [c]) ≠ lowerSigma before after := by
  simp only [lowerSigma, meetsCased_eq, decisive?_append, visible]
  unfold sigmaSettled at unsettled
  split at unsettled
  · cases unsettled
  · next d first second =>
    have isCased : cased.contains d = true := by simpa using unsettled
    exact .inr (by simp [first, second, isCased, hasCase])
  · next d first second => exact .inl (by simp [first, second, unsettled, hasCase])
  · next first second => exact .inl (by simp [first, second, hasCase])

/-!
## Terms that are missed
-/

section Missed

variable {term : List Char} {c : Char} (itself : lowerChar c = [c]) (notSigma : c ≠ 'Σ')

include itself notSigma

private theorem lower_cons : lower (c :: term) = c :: lowerBetween [c] [] term := by
  rw [lower_eq_lowerBetween, lowerBetween, if_neg notSigma, itself]
  rfl

private theorem lower_concat : lower (term ++ [c]) = lowerBetween [] [c] term ++ [c] := by
  have split := lower_append_append [] term [c]
  rw [List.nil_append] at split
  rw [split]
  simp [lowerBetween, lowerAfter, notSigma, itself]

/-- A term is missed behind a letter that it does not start with if that letter changes its form. -/
theorem not_infix_lower_cons (nonempty : lower term ≠ []) (first : (lower term).head? ≠ some c)
    (changed : lowerBetween [c] [] term ≠ lowerBetween [] [] term) :
    ¬lower term <:+: lower (c :: term) := by
  rw [lower_cons itself notSigma, List.infix_cons_iff]
  rintro (leads | inside)
  · obtain ⟨d, rest, spelled⟩ := List.exists_cons_of_ne_nil nonempty
    rw [spelled, List.cons_prefix_cons] at leads
    exact first (by rw [spelled, leads.1]; rfl)
  · rw [lower_eq_lowerBetween] at inside
    exact changed (inside.eq_of_length (length_lowerBetween term [] [] [c] [])).symm

/-- A term is missed in front of a letter that it does not end in if that letter changes its
form. -/
theorem not_infix_lower_concat (nonempty : lower term ≠ []) (last : (lower term).getLast? ≠ some c)
    (changed : lowerBetween [] [c] term ≠ lowerBetween [] [] term) :
    ¬lower term <:+: lower (term ++ [c]) := by
  rw [lower_concat itself notSigma, List.infix_concat_iff]
  rintro (ends | inside)
  · obtain ⟨rest, d, spelled⟩ := (List.eq_nil_or_concat _).resolve_left nonempty
    rw [List.concat_eq_append] at spelled
    obtain ⟨dropped, whole⟩ := ends
    rw [spelled, ← List.append_assoc] at whole
    obtain rfl := (List.append_singleton_inj.mp whole).2
    exact last (by rw [spelled, List.getLast?_concat])
  · rw [lower_eq_lowerBetween] at inside
    exact changed (inside.eq_of_length (length_lowerBetween term [] [] [] [c])).symm

end Missed

/-- Of three letters, one is neither of two characters. -/
theorem exists_letter_ne (first last : Option Char) :
    ∃ c ∈ ['a', 'b', 'c'], first ≠ some c ∧ last ≠ some c := by
  by_cases a : first = some 'a' ∨ last = some 'a'
  · by_cases b : first = some 'b' ∨ last = some 'b'
    · refine ⟨'c', by simp, ?_⟩
      rcases a with rfl | rfl
      · obtain rfl : last = some 'b' := by simpa using b
        simp
      · obtain rfl : first = some 'b' := by simpa using b
        simp
    · exact ⟨'b', by simp, not_or.mp b⟩
  · exact ⟨'a', by simp, not_or.mp a⟩

private theorem letter_facts : ∀ c ∈ ['a', 'b', 'c'],
    lowerChar c = [c] ∧ c ≠ 'Σ' ∧ decisive? [c] = some c ∧ cased.contains c = true := by
  decide

private theorem sigma_mem_lowerBetween (before after left right : List Char) :
    ∃ sigma ∈ ['σ', 'ς'], sigma ∈ lowerBetween left right (before ++ 'Σ' :: after) := by
  induction before generalizing left with
  | nil =>
    refine ⟨lowerSigma left (after ++ right), ?_, by simp [lowerBetween]⟩
    rw [lowerSigma]
    split
    · simp
    · simp
  | cons c before ih =>
    obtain ⟨sigma, listed, member⟩ := ih (c :: left)
    exact ⟨sigma, listed, List.mem_append_right _ member⟩

/-- A term with a capital sigma whose form is open is missed in some text that holds it. -/
theorem exists_missed {before after : List Char}
    (unsettled : sigmaSettled before.reverse after = false) :
    ∃ text, before ++ 'Σ' :: after <:+: text ∧ ¬lower (before ++ 'Σ' :: after) <:+: lower text := by
  have nonempty : lower (before ++ 'Σ' :: after) ≠ [] := by
    obtain ⟨sigma, -, member⟩ := sigma_mem_lowerBetween before after [] []
    rw [lower_eq_lowerBetween]
    exact List.ne_nil_of_mem member
  obtain ⟨c, letter, first, last⟩ :=
    exists_letter_ne (lower (before ++ 'Σ' :: after)).head?
      (lower (before ++ 'Σ' :: after)).getLast?
  obtain ⟨itself, notSigma, visible, hasCase⟩ := letter_facts c letter
  rcases lowerSigma_ne_of_not_settled unsettled visible hasCase with other | other
  · refine ⟨c :: (before ++ 'Σ' :: after), (List.suffix_cons c _).isInfix, ?_⟩
    refine not_infix_lower_cons itself notSigma nonempty first fun same => other ?_
    simpa using (lowerBetween_eq_iff _ [c] [] [] []).mp same before after rfl
  · refine ⟨before ++ 'Σ' :: after ++ [c], (List.prefix_append _ [c]).isInfix, ?_⟩
    refine not_infix_lower_concat itself notSigma nonempty last fun same => other ?_
    simpa using (lowerBetween_eq_iff _ [] [c] [] []).mp same before after rfl

/-- Every capital sigma of the term has the form between the two texts that it has in the term
alone. -/
def SigmasAlike (front term back : List Char) : Prop :=
  EachSigma (fun before after => lowerSigma (before ++ front.reverse) (after ++ back) =
    lowerSigma before after) term

/-- The form of every capital sigma of the term is decided by the term. -/
def SigmasSettled (term : List Char) : Prop :=
  EachSigma (fun before after => sigmaSettled before after = true) term

theorem SigmasAlike.lower_isInfix {front term back : List Char}
    (alike : SigmasAlike front term back) :
    lower term <:+: lower (front ++ term ++ back) := by
  have same : lowerBetween front.reverse back term = lower term := by
    rw [lower_eq_lowerBetween, lowerBetween_eq_iff]
    simpa [SigmasAlike] using alike
  rw [lower_append_append, same]
  exact ⟨_, _, rfl⟩

theorem SigmasSettled.alike {term : List Char} (settled : SigmasSettled term)
    (front back : List Char) :
    SigmasAlike front term back :=
  fun before after split => lowerSigma_of_settled (settled before after split) front.reverse back

end Text

/-!
## Searches
-/

namespace Symbol

private theorem mentions_iff (symbol : Symbol) (term : List Char) :
    symbol.mentions term = true ↔
      Text.lower term <:+: Text.lower symbol.name.toList ∨
      Text.lower term <:+: Text.lower symbol.scope.toList := by
  simp only [mentions, Bool.or_eq_true, Text.occursIn_iff_isInfix]

private theorem mentions_of_alike {symbol : Symbol} {front term back : List Char}
    (stands : symbol.name.toList = front ++ term ++ back ∨
      symbol.scope.toList = front ++ term ++ back)
    (alike : Text.SigmasAlike front term back) : symbol.mentions term = true := by
  rw [mentions_iff]
  rcases stands with inName | inScope
  · exact .inl (inName ▸ alike.lower_isInfix)
  · exact .inr (inScope ▸ alike.lower_isInfix)

private theorem mentions_of_settled {symbol : Symbol} {term : List Char}
    (settled : Text.SigmasSettled term)
    (stands : term <:+: symbol.name.toList ∨ term <:+: symbol.scope.toList) :
    symbol.mentions term = true := by
  rcases stands with ⟨front, back, whole⟩ | ⟨front, back, whole⟩
  · exact mentions_of_alike (.inl whole.symm) (settled.alike front back)
  · exact mentions_of_alike (.inr whole.symm) (settled.alike front back)

/-- No name of a fixed scope holds a small sigma, so only the name of the symbol counts. -/
theorem exists_not_mentions {before after : List Char}
    (unsettled : Text.sigmaSettled before.reverse after = false) :
    ∃ symbol : Symbol, before ++ 'Σ' :: after <:+: symbol.name.toList ∧
    symbol.mentions (before ++ 'Σ' :: after) = false := by
  obtain ⟨text, inside, missed⟩ := Text.exists_missed unsettled
  let symbol : Symbol :=
    { name := String.ofList text, kind := .variable, scope := globalScope, line := 1,
      language := .python }
  refine ⟨symbol, by simpa [symbol] using inside, ?_⟩
  rw [Bool.eq_false_iff, Ne, mentions_iff]
  rintro (inName | inScope)
  · exact missed (by simpa [symbol] using inName)
  · obtain ⟨sigma, listed, member⟩ := Text.sigma_mem_lowerBetween before after [] []
    have plain : ∀ sigma ∈ ['σ', 'ς'], sigma ∉ Text.lower globalScope.toList := by decide
    rw [Text.lower_eq_lowerBetween] at inScope
    exact plain sigma listed (inScope.subset member)

/-- A term that stands in a name or scope is found there if every capital sigma has the form there
that it has in the term alone. The terms that are found wherever they stand are exactly those that
decide the form of each capital sigma themselves. -/
theorem verbatim_terms_found (term : List Char) :
    (∀ (symbol : Symbol) (front back : List Char),
      symbol.name.toList = front ++ term ++ back ∨ symbol.scope.toList = front ++ term ++ back →
        Text.SigmasAlike front term back → symbol.mentions term = true) ∧
    ((∀ symbol : Symbol, term <:+: symbol.name.toList ∨ term <:+: symbol.scope.toList →
      symbol.mentions term = true) ↔
      Text.SigmasSettled term) := by
  refine ⟨fun symbol front back => mentions_of_alike, fun everywhere before after split => ?_,
    fun settled symbol => mentions_of_settled settled⟩
  by_contra unsettled
  obtain ⟨symbol, stands, missed⟩ := exists_not_mentions (Bool.eq_false_iff.mpr unsettled)
  rw [← split] at stands missed
  rw [everywhere symbol (.inl stands)] at missed
  cases missed

/-- Alone the sigma ends a word, and in the name it does not. -/
theorem sigma_at_end_of_term_missed :
    let symbol : Symbol :=
  { name := "ΑΣΒ", kind := .variable, scope := "global", line := 1, language := .python }
    "ΑΣ".toList <:+: symbol.name.toList ∧ symbol.mentions "ΑΣ".toList = false :=
  ⟨⟨[], ['Β'], rfl⟩, by decide +kernel⟩

end Symbol

end Symtab
