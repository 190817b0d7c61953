import Symtab.Proofs.Words
import Symtab.Text.Lower

/-!
# Small letters stay as they are

No small letter in the table of letter case is a capital letter of the table. So what lower-casing
writes is its own lower-case form, and lower-casing a text twice gives what lower-casing it once
does.
-/

set_option autoImplicit false

namespace Symtab.Text

namespace CaseRun

/-- Whether the capital letters of the run are at code points of one parity. -/
def keepsParity (run : CaseRun) : Bool :=
  run.step == 2 || run.first == run.last

/-- Whether it is plain from their bounds and parities that no small letter of the run is a capital
letter of the other. -/
def avoids (run other : CaseRun) : Bool :=
  other.last.blt run.image || (run.image + (run.last - run.first)).blt other.first ||
    (run.keepsParity && other.keepsParity && run.image % 2 != other.first % 2)

variable {run other : CaseRun} {point image : Nat}

theorem lower?_eq_some_iff :
    run.lower? point = some image ↔
      (run.first ≤ point ∧ point ≤ run.last ∧ (point - run.first) % run.step = 0) ∧
      run.image + (point - run.first) = image := by
  rw [lower?]
  split
  · next inside => simp [inside]
  · next outside => simp [outside]

private theorem keepsParity_iff : run.keepsParity = true ↔ run.step = 2 ∨ run.first = run.last := by
  simp [keepsParity]

private theorem even_of_keepsParity (keeps : run.keepsParity = true)
    (found : run.lower? point = some image) :
    (point - run.first) % 2 = 0 := by
  obtain ⟨⟨lower, upper, spaced⟩, -⟩ := lower?_eq_some_iff.mp found
  cases keepsParity_iff.mp keeps with
  | inl two => rwa [two] at spaced
  | inr single => omega

private theorem lower?_eq_none_of_avoids (apart : run.avoids other = true)
    (found : run.lower? point = some image) :
    other.lower? image = none := by
  rw [Option.eq_none_iff_forall_ne_some]
  intro second again
  obtain ⟨⟨lower, upper, -⟩, rfl⟩ := lower?_eq_some_iff.mp found
  obtain ⟨⟨otherLower, otherUpper, -⟩, -⟩ := lower?_eq_some_iff.mp again
  simp only [avoids, Bool.or_eq_true, Nat.blt_eq, Bool.and_eq_true, bne_iff_ne] at apart
  rcases apart with (below | above) | ⟨⟨keeps, otherKeeps⟩, differs⟩
  · omega
  · omega
  · have even := even_of_keepsParity keeps found
    have otherEven := even_of_keepsParity otherKeeps again
    omega

end CaseRun

private theorem caseRuns_avoid :
    (caseRunsBeyondAscii.all fun run => caseRunsBeyondAscii.all run.avoids) = true := by
  decide +kernel

/-- The small letters beyond ASCII start behind the capital letters of ASCII, and none is the dotted
capital I. -/
theorem caseRuns_bounds :
    ∀ run ∈ caseRunsBeyondAscii, 0x5A < run.image ∧ run.avoids ⟨0x130, 0x130, 1, 0x130⟩ = true := by
  decide +kernel

/-- The character is its own lower-case form. -/
def IsSmall (c : Char) : Prop :=
  lowerChar c = [c]

instance (c : Char) : Decidable (IsSmall c) :=
  inferInstanceAs (Decidable (_ = _))

theorem toLower_eq_self {c : Char} (notCapital : c.toNat < 0x41 ∨ 0x5A < c.toNat) :
    c.toLower = c := by
  refine dif_neg fun capital => ?_
  have lower : 0x41 ≤ c.toNat := UInt32.le_iff_toNat_le.mp capital.1
  have upper : c.toNat ≤ 0x5A := UInt32.le_iff_toNat_le.mp capital.2
  omega

theorem toNat_ofNat (point : Nat) :
    (Char.ofNat point).toNat = point ∨ Char.ofNat point = '\x00' := by
  by_cases valid : point.isValidChar
  · have written : Char.ofNat point = Char.ofNatAux point valid := dif_pos valid
    exact .inl (by rw [written]; rfl)
  · exact .inr (dif_neg valid)

/-- What holds at every code point of ASCII holds of every character of ASCII. -/
theorem forall_ascii {property : Char → Prop} (each : ∀ point < 0x80, property (Char.ofNat point))
    {c : Char} (ascii : c.toNat < 0x80) : property c := by
  rw [← Char.ofNat_toNat c]
  exact each c.toNat ascii

private theorem isSmall_beyond {c : Char} (beyond : 0x80 ≤ c.toNat) (notDotted : c ≠ 'İ')
    (unlisted : ∀ run ∈ caseRunsBeyondAscii, run.lower? c.toNat = none) : IsSmall c := by
  have none : caseRunsBeyondAscii.findSome? (·.lower? c.toNat) = none :=
    List.findSome?_eq_none_iff.mpr unlisted
  rw [IsSmall, lowerChar, if_neg (by omega), if_neg notDotted, lowerBeyondAscii, none]

/-- What the table gives for a capital letter is small: it is in no run, nor is it the dotted
capital I. -/
theorem isSmall_ofNat {run : CaseRun} (listed : run ∈ caseRunsBeyondAscii) {point image : Nat}
    (found : run.lower? point = some image) : IsSmall (Char.ofNat image) := by
  obtain ⟨bound, notDotted⟩ := caseRuns_bounds run listed
  obtain ⟨-, written⟩ := CaseRun.lower?_eq_some_iff.mp found
  cases toNat_ofNat image with
  | inr zero => rw [zero]; decide
  | inl same =>
    by_cases ascii : image < 0x80
    · rw [IsSmall, lowerChar, if_pos (by omega), toLower_eq_self (.inr (by omega))]
    · refine isSmall_beyond (by omega) (fun dotted => ?_) fun other otherListed => ?_
      · have none := CaseRun.lower?_eq_none_of_avoids notDotted found
        rw [← same, dotted] at none
        revert none
        decide
      · have apart :=
          List.all_eq_true.mp (List.all_eq_true.mp caseRuns_avoid run listed) other otherListed
        rw [same]
        exact CaseRun.lower?_eq_none_of_avoids apart found

private theorem isSmall_of_mem_lowerChar {c d : Char} (member : d ∈ lowerChar c) : IsSmall d := by
  rw [lowerChar] at member
  split at member
  · next ascii =>
    have small : ∀ point < 0x80, IsSmall (Char.ofNat point).toLower := by decide +kernel
    rw [List.mem_singleton.mp member]
    exact @forall_ascii (fun c => IsSmall c.toLower) small c ascii
  · next beyond =>
    split at member
    · have small : ∀ d ∈ ['i', '\u0307'], IsSmall d := by decide
      exact small d member
    · next notDotted =>
      rw [List.mem_singleton.mp member, lowerBeyondAscii]
      split
      · next image found =>
        obtain ⟨run, listed, inRun⟩ := List.exists_of_findSome?_eq_some found
        exact isSmall_ofNat listed inRun
      · next none => exact isSmall_beyond (by omega) notDotted (List.findSome?_eq_none_iff.mp none)

/-- What lower-casing writes is a small sigma or comes from a single character of the text. -/
theorem mem_lowerAfter_cases {before text : List Char} {d : Char}
    (member : d ∈ lowerAfter before text) :
    d ∈ ['σ', 'ς'] ∨ ∃ c ∈ text, d ∈ lowerChar c := by
  induction text generalizing before with
  | nil => cases member
  | cons c rest ih =>
    cases List.mem_append.mp member with
    | inl first =>
      split at first
      · rw [List.mem_singleton.mp first, lowerSigma]
        split
        · exact .inl (by decide)
        · exact .inl (by decide)
      · exact .inr ⟨c, List.mem_cons_self, first⟩
    | inr later =>
      cases ih later with
      | inl sigma => exact .inl sigma
      | inr source =>
        obtain ⟨other, inside, written⟩ := source
        exact .inr ⟨other, List.mem_cons_of_mem c inside, written⟩

theorem mem_lower_cases {text : List Char} {d : Char} (member : d ∈ lower text) :
    d ∈ ['σ', 'ς'] ∨ ∃ c ∈ text, d ∈ lowerChar c :=
  mem_lowerAfter_cases member

theorem isSmall_of_mem_lower {text : List Char} {d : Char} (member : d ∈ lower text) :
    IsSmall d := by
  have sigmas : ∀ sigma ∈ ['σ', 'ς'], IsSmall sigma := by decide
  cases mem_lower_cases member with
  | inl sigma => exact sigmas d sigma
  | inr source =>
    obtain ⟨c, -, written⟩ := source
    exact isSmall_of_mem_lowerChar written

/-- The characters of the text beyond ASCII are small. -/
def AsciiCapitals (text : List Char) : Prop :=
  ∀ c ∈ text, c.toNat < 0x80 ∨ IsSmall c

instance (text : List Char) : Decidable (AsciiCapitals text) :=
  inferInstanceAs (Decidable (∀ c ∈ text, _ ∨ _))

/-- On ASCII, and on small letters anywhere, lower-casing is lower-casing of ASCII letters. -/
theorem lowerChar_eq {c : Char} (plain : c.toNat < 0x80 ∨ IsSmall c) :
    lowerChar c = [c.toLower] := by
  by_cases ascii : c.toNat < 0x80
  · rw [lowerChar, if_pos ascii]
  · rw [plain.resolve_left ascii, toLower_eq_self (.inr (by omega))]

private theorem lowerAfter_eq_map {before text : List Char} (plain : AsciiCapitals text) :
    lowerAfter before text = text.map Char.toLower := by
  induction text generalizing before with
  | nil => rfl
  | cons c rest ih =>
    obtain ⟨first, others⟩ := List.forall_mem_cons.mp plain
    have notSigma : c ≠ 'Σ' := by
      rintro rfl
      revert first
      decide
    rw [lowerAfter, if_neg notSigma, lowerChar_eq first, ih others]
    rfl

theorem lower_eq_map {text : List Char} (plain : AsciiCapitals text) :
    lower text = text.map Char.toLower :=
  lowerAfter_eq_map plain

theorem IsSmall.toLower {c : Char} (small : IsSmall c) : c.toLower = c :=
  List.singleton_inj.mp ((lowerChar_eq (.inr small)).symm.trans small)

theorem map_toLower_lower (text : List Char) : (lower text).map Char.toLower = lower text :=
  (List.map_congr_left fun _ member => (isSmall_of_mem_lower member).toLower).trans (List.map_id _)

theorem lower_lower (text : List Char) : lower (lower text) = lower text := by
  rw [lower_eq_map fun c member => .inr (isSmall_of_mem_lower member), map_toLower_lower]

end Symtab.Text
