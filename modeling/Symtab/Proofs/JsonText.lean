import Mathlib.Data.List.DropRight
import Mathlib.Data.List.TakeDrop
import Symtab.Json.Parse
import Symtab.Json.Print

/-!
# Reading what is written

A value that is written with every item and field on a line of its own is read back as the same
value, whatever follows it in the text, provided that its numbers are whole, that it is not nested
too deeply, and that what follows does not go on with a number.
-/

set_option autoImplicit false

namespace Symtab.Json

/-!
## White space
-/

private theorem skipSpace_append {space : List Char} (blank : ∀ c ∈ space, isSpace c = true)
    (rest : List Char) :
    skipSpace (space ++ rest) = skipSpace rest :=
  List.dropWhile_append_of_pos blank

private theorem skipSpace_cons {c : Char} (solid : isSpace c = false) (rest : List Char) :
    skipSpace (c :: rest) = c :: rest := by
  simp [skipSpace, solid]

private theorem skipSpace_skipSpace (text : List Char) :
    skipSpace (skipSpace text) = skipSpace text :=
  List.dropWhile_idempotent isSpace text

private theorem isSpace_of_mem_newLine {level : Nat} : ∀ c ∈ newLine level, isSpace c = true := by
  intro c member
  rcases List.mem_cons.mp member with rfl | indentation
  · rfl
  · rw [(List.mem_replicate.mp indentation).2]
    rfl

private theorem length_newLine (level : Nat) : (newLine level).length = 2 * level + 1 := by
  simp [newLine]

/-- The layout puts a line break in front of a character that is not white space. -/
theorem skipSpace_newLine {c : Char} (solid : isSpace c = false) (level : Nat) (rest : List Char) :
    skipSpace (newLine level ++ c :: rest) = c :: rest := by
  rw [skipSpace_append isSpace_of_mem_newLine, skipSpace_cons solid]

private theorem parseValue_append_space {space : List Char} (blank : ∀ c ∈ space, isSpace c = true)
    (fuel levels : Nat) (text : List Char) :
    parseValue fuel levels (space ++ text) = parseValue fuel levels text := by
  cases fuel with
  | zero => simp [parseValue]
  | succ fuel => rw [parseValue, parseValue, skipSpace_append blank]

private theorem parseValue_skipSpace (fuel levels : Nat) (text : List Char) :
    parseValue fuel levels (skipSpace text) = parseValue fuel levels text := by
  cases fuel with
  | zero => simp [parseValue]
  | succ fuel => rw [parseValue, parseValue, skipSpace_skipSpace]

private theorem parseItems_skipSpace (fuel levels : Nat) (text : List Char) :
    parseItems fuel levels (skipSpace text) = parseItems fuel levels text := by
  cases fuel with
  | zero => simp [parseItems]
  | succ fuel => rw [parseItems, parseItems, parseValue_skipSpace]

private theorem parseFields_skipSpace (fuel levels : Nat) (text : List Char) :
    parseFields fuel levels (skipSpace text) = parseFields fuel levels text := by
  cases fuel with
  | zero => simp [parseFields]
  | succ fuel => rw [parseFields, parseFields, skipSpace_skipSpace]

/-!
## Texts
-/

private theorem hexValue?_hexDigit : ∀ n < 16, hexValue? (hexDigit n) = some n := by
  decide

/-- An escape of a code unit is one character, whether or not another escape follows it. -/
theorem parseText_unit {a b c d char : Char} {unit : Nat} (digits : hex4? a b c d = some unit)
    (whole : charOfUnit? unit = some char) (done rest : List Char) :
    parseText done ('\\' :: 'u' :: a :: b :: c :: d :: rest) = parseText (char :: done) rest := by
  by_cases another : ∃ e f g h later, rest = '\\' :: 'u' :: e :: f :: g :: h :: later
  · obtain ⟨e, f, g, h, later, rfl⟩ := another
    simp only [parseText.eq_3, digits, whole]
  · rw [parseText.eq_4 _ _ _ _ _ _ fun e f g h later same => another ⟨e, f, g, h, later, same⟩,
      digits, Option.bind_some, whole]

private theorem parseText_letter {letter char : Char} (letters : simpleEscape? letter = some char)
    (done rest : List Char) :
    parseText done ('\\' :: letter :: rest) = parseText (char :: done) rest := by
  have noUnit : letter ≠ 'u' := by
    rintro rfl
    cases letters
  rw [parseText.eq_5 _ _ _ (fun _ _ _ _ _ _ _ _ _ same => absurd same noUnit)
    (fun _ _ _ _ _ same => absurd same noUnit), letters]

private theorem parseText_plain {c : Char} (noQuote : c ≠ '"') (noEscape : c ≠ '\\')
    (printable : ¬c.toNat < 0x20) (done rest : List Char) :
    parseText done (c :: rest) = parseText (c :: done) rest := by
  rw [parseText.eq_6 _ _ _ noQuote (fun _ _ _ _ _ _ _ _ _ same => absurd same noEscape)
    (fun _ _ _ _ _ same => absurd same noEscape) (fun _ _ same => absurd same noEscape),
    if_neg (not_or.mpr ⟨noEscape, printable⟩)]

/-- A character is read back from its written form. -/
theorem parseText_escape (c : Char) (done rest : List Char) :
    parseText done (escape c ++ rest) = parseText (c :: done) rest := by
  unfold escape
  split_ifs with quote backslash backspace tab feed form carriage control
  · exact parseText_letter (by rw [quote]; rfl) done rest
  · exact parseText_letter (by rw [backslash]; rfl) done rest
  · exact parseText_letter (by rw [backspace]; rfl) done rest
  · exact parseText_letter (by rw [tab]; rfl) done rest
  · exact parseText_letter (by rw [feed]; rfl) done rest
  · exact parseText_letter (by rw [form]; rfl) done rest
  · exact parseText_letter (by rw [carriage]; rfl) done rest
  · have digits :
        hex4? '0' '0' (hexDigit (c.toNat / 16)) (hexDigit (c.toNat % 16)) = some c.toNat := by
      have zero : hexValue? '0' = some 0 := by decide
      have value : (0 * 16 + 0) * 16 + c.toNat / 16 = c.toNat / 16 := by omega
      simp only [hex4?, zero, hexValue?_hexDigit (c.toNat / 16) (by omega),
        hexValue?_hexDigit (c.toNat % 16) (by omega)]
      simp
      omega
    have whole : charOfUnit? c.toNat = some c := by
      rw [charOfUnit?, if_neg (by omega), Char.ofNat_toNat]
    exact parseText_unit digits whole done rest
  · exact parseText_plain quote backslash control done rest

private theorem parseText_flatMap_escape (text done rest : List Char) :
    parseText done (text.flatMap escape ++ '"' :: rest) =
      some (String.ofList (done.reverse ++ text), rest) := by
  induction text generalizing done with
  | nil => simp [parseText]
  | cons c text ih =>
    rw [List.flatMap_cons, List.append_assoc, parseText_escape, ih]
    simp

private theorem parseText_printText (text : String) (rest : List Char) :
    parseText [] (text.toList.flatMap escape ++ ['"'] ++ rest) = some (text, rest) := by
  rw [List.append_assoc, List.singleton_append, parseText_flatMap_escape]
  simp

/-!
## Numbers
-/

/-- The text does not go on with a number that stands in front of it. -/
def EndsNumber (rest : List Char) : Prop :=
  ∀ c ∈ rest.head?, c.isDigit = false ∧ c ≠ '.' ∧ c ≠ 'e' ∧ c ≠ 'E'

private theorem splitDigits_append {digits rest : List Char}
    (areDigits : ∀ c ∈ digits, c.isDigit = true) (ends : EndsNumber rest) :
    splitDigits (digits ++ rest) = (digits, rest) := by
  rw [splitDigits, List.span_eq_takeWhile_dropWhile, List.takeWhile_append_of_pos areDigits,
    List.dropWhile_append_of_pos areDigits]
  cases rest with
  | nil => simp
  | cons c rest => simp [(ends c rfl).1]

private theorem digitsValue_toDigits (n : Nat) : digitsValue (Nat.toDigits 10 n) = n := by
  have same : digitsValue (Nat.toDigits 10 n) = Nat.ofDigitChars 10 (Nat.toDigits 10 n) 0 := by
    simp [digitsValue, Nat.ofDigitChars_eq_foldl, Nat.mul_comm]
  rw [same, Nat.ofDigitChars_ten_toDigits]

/-- Only zero is written with a zero in front. -/
theorem head?_toDigits {n : Nat} (positive : 0 < n) : (Nat.toDigits 10 n).head? ≠ some '0' := by
  induction n using Nat.strongRecOn with
  | ind n ih =>
    by_cases small : n < 10
    · have noZero : ∀ digit < 10, 0 < digit → Nat.digitChar digit ≠ '0' := by decide
      rw [Nat.toDigits_of_lt_base small]
      simpa using noZero n small positive
    · rw [Nat.toDigits_of_base_le (by omega) (by omega),
        List.head?_append_of_ne_nil _ Nat.toDigits_ne_nil]
      exact ih (n / 10) (by omega) (by omega)

private theorem parseFraction_of_ends {rest : List Char} (ends : EndsNumber rest) :
    parseFraction rest = some ([], rest) := by
  rw [parseFraction.eq_2]
  rintro others rfl
  exact (ends '.' rfl).2.1 rfl

private theorem parseExponent_of_ends {rest : List Char} (ends : EndsNumber rest) :
    parseExponent rest = some ([], rest) := by
  cases rest with
  | nil => rfl
  | cons c rest =>
    obtain ⟨_, _, lower, upper⟩ := ends c rfl
    rw [parseExponent, if_neg (not_or.mpr ⟨lower, upper⟩)]

private theorem parseNumber_toDigits {negative : Bool} {n : Nat} (signed : negative = true → 0 < n)
    {rest : List Char} (ends : EndsNumber rest) :
    parseNumber negative (Nat.toDigits 10 n ++ rest) =
      some (.int (if negative then -(n : Int) else n), rest) := by
  have areDigits : ∀ c ∈ Nat.toDigits 10 n, c.isDigit = true :=
    fun c => Nat.isDigit_of_mem_toDigits (by omega) (by omega)
  have noLeadingZero : 1 < (Nat.toDigits 10 n).length → (Nat.toDigits 10 n).head? ≠ some '0' := by
    intro long
    rcases Nat.eq_zero_or_pos n with rfl | positive
    · simp at long
    · exact head?_toDigits positive
  have notMinusZero : ¬(negative = true ∧ n = 0) :=
    fun ⟨minus, zero⟩ => absurd (signed minus) (by omega)
  simpa [parseNumber, splitDigits_append areDigits ends, parseFraction_of_ends ends,
    parseExponent_of_ends ends, digitsValue_toDigits, notMinusZero] using noLeadingZero

/-!
## Values
-/

/-- The value has whole numbers only and at most so many levels of nesting. -/
inductive WholeWithin : Nat → Json → Prop where
  | null {levels : Nat} : WholeWithin levels .null
  | bool {levels : Nat} (value : Bool) : WholeWithin levels (.bool value)
  | int {levels : Nat} (value : Int) : WholeWithin levels (.int value)
  | string {levels : Nat} (text : String) : WholeWithin levels (.string text)
  | array {levels : Nat} {items : List Json} (each : ∀ item ∈ items, WholeWithin levels item) :
      WholeWithin (levels + 1) (.array items)
  | object {levels : Nat} {fields : List (String × Json)}
      (each : ∀ field ∈ fields, WholeWithin levels field.2) :
      WholeWithin (levels + 1) (.object fields)

private theorem ne_of_isDigit {c d : Char} (digit : c.isDigit = true) (other : d.isDigit = false) :
    c ≠ d := by
  rintro rfl
  rw [other] at digit
  cases digit

private theorem parseValue_digit {c : Char} (digit : c.isDigit = true) (fuel levels : Nat)
    (rest : List Char) :
    parseValue (fuel + 1) levels (c :: rest) = parseNumber false (c :: rest) := by
  have notDigits :
      [' ', '\t', '\n', '\r', '"', '[', '{', '-'].all (fun d => !d.isDigit) = true := by decide
  have other : ∀ d ∈ [' ', '\t', '\n', '\r', '"', '[', '{', '-'], c ≠ d := fun d member =>
    ne_of_isDigit digit ((Bool.not_eq_true' _).mp (List.all_eq_true.mp notDigits d member))
  simp only [List.forall_mem_cons] at other
  rw [parseValue, skipSpace_cons (by simp [isSpace, other])]
  split
  all_goals simp_all

private theorem parseValue_printInt (value : Int) (fuel levels : Nat) {rest : List Char}
    (ends : EndsNumber rest) :
    parseValue (fuel + 1) levels (printInt value ++ rest) = some (.int value, rest) := by
  cases value with
  | ofNat n =>
    obtain ⟨c, digits, split⟩ := List.exists_cons_of_ne_nil (@Nat.toDigits_ne_nil n 10)
    have digit : c.isDigit = true :=
      Nat.isDigit_of_mem_toDigits (by omega) (by omega) (split ▸ List.mem_cons_self)
    rw [printInt, split, List.cons_append, parseValue_digit digit, ← List.cons_append, ← split,
      parseNumber_toDigits (by simp) ends]
    rfl
  | negSucc n =>
    rw [printInt, List.cons_append, parseValue, skipSpace_cons (by decide)]
    simp only [parseNumber_toDigits (fun _ => Nat.succ_pos n) ends]
    rfl

private theorem skipWord?_append (word : String) (rest : List Char) :
    skipWord? word (word.toList ++ rest) = some rest := by
  rw [skipWord?, if_pos (by simp), ← String.length_toList, List.drop_left]

private theorem parseValue_null (fuel levels : Nat) (rest : List Char) :
    parseValue (fuel + 1) levels ("null".toList ++ rest) = some (.null, rest) := by
  have skipped := skipWord?_append "null" rest
  simpa [parseValue, skipSpace, isSpace] using skipped

private theorem parseValue_bool (value : Bool) (fuel levels : Nat) (rest : List Char) :
    parseValue (fuel + 1) levels ((if value then "true".toList else "false".toList) ++ rest) =
      some (.bool value, rest) := by
  cases value with
  | false =>
    have skipped := skipWord?_append "false" rest
    simpa [parseValue, skipSpace, isSpace] using skipped
  | true =>
    have skipped := skipWord?_append "true" rest
    simpa [parseValue, skipSpace, isSpace] using skipped

private theorem parseValue_printText (text : String) (fuel levels : Nat) (rest : List Char) :
    parseValue (fuel + 1) levels (printText text ++ rest) = some (.string text, rest) := by
  rw [printText, List.cons_append, parseValue, skipSpace_cons (by decide)]
  simp only [parseText_printText, Option.map_some]

/-- The value is read back from its written form, with fuel for more than twice the length of that
form. -/
def ReadBack (levels : Nat) (value : Json) : Prop :=
  ∀ level rest fuel, EndsNumber rest → 2 * (printIndented level value).length < fuel →
    parseValue fuel levels (printIndented level value ++ rest) = some (value, rest)

private theorem endsNumber_cons {c : Char} (stops : c.isDigit = false ∧ c ≠ '.' ∧ c ≠ 'e' ∧ c ≠ 'E')
    (rest : List Char) :
    EndsNumber (c :: rest) := by
  intro d first
  cases first
  exact stops

private theorem endsNumber_newLine (level : Nat) (rest : List Char) :
    EndsNumber (newLine level ++ rest) :=
  endsNumber_cons (by decide) _

private theorem printIndentedItems_cons (level : Nat) (item next : Json) (others : List Json) :
    printIndentedItems level (item :: next :: others) =
      newLine level ++ (printIndented level item ++
        ',' :: printIndentedItems level (next :: others)) := by
  rw [printIndentedItems, List.append_assoc]
  simp

private theorem printIndentedFields_cons (level : Nat) (name : String) (value : Json)
    (next : String × Json) (others : List (String × Json)) :
    printIndentedFields level ((name, value) :: next :: others) =
      newLine level ++ (printText name ++ ':' :: ' ' :: (printIndented level value ++
        ',' :: printIndentedFields level (next :: others))) := by
  rw [printIndentedFields, List.append_assoc]
  simp

private theorem parseItems_printIndentedItems {levels : Nat} {items : List Json}
    (nonempty : items ≠ []) (each : ∀ item ∈ items, ReadBack levels item) (level below : Nat)
    (rest : List Char) {fuel : Nat} (enough : 2 * (printIndentedItems level items).length < fuel) :
    parseItems fuel levels (printIndentedItems level items ++ (newLine below ++ ']' :: rest)) =
      some (items, rest) := by
  induction items generalizing fuel with
  | nil => exact absurd rfl nonempty
  | cons item others ih =>
    obtain ⟨itemRead, othersRead⟩ := List.forall_mem_cons.mp each
    obtain ⟨fuel, rfl⟩ := Nat.exists_eq_add_one_of_ne_zero (Nat.ne_zero_of_lt enough)
    cases others with
    | nil =>
      rw [printIndentedItems, List.length_append, length_newLine] at enough
      rw [printIndentedItems, List.append_assoc, parseItems,
        parseValue_append_space isSpace_of_mem_newLine,
        itemRead level _ fuel (endsNumber_newLine _ _) (by omega)]
      simp only [skipSpace_newLine (show isSpace ']' = false by decide)]
    | cons next others =>
      rw [printIndentedItems_cons, List.length_append, List.length_append, List.length_cons,
        length_newLine] at enough
      have othersParsed :=
        ih (by simp) othersRead
          (show 2 * (printIndentedItems level (next :: others)).length < fuel by omega)
      rw [printIndentedItems_cons, List.append_assoc, List.append_assoc, List.cons_append,
        parseItems, parseValue_append_space isSpace_of_mem_newLine,
        itemRead level _ fuel (endsNumber_cons (by decide) _) (by omega)]
      simp only [skipSpace_cons (show isSpace ',' = false by decide), othersParsed, Option.map_some]

section Field

variable {fuel levels : Nat} {value : Json} {text after rest : List Char}

private theorem parseValue_space (parsed : parseValue fuel levels text = some (value, after)) :
    parseValue fuel levels (' ' :: text) = some (value, after) :=
  (parseValue_append_space (List.forall_mem_singleton.mpr rfl) fuel levels text).trans parsed

private theorem parseFields_last (parsed : parseValue fuel levels text = some (value, after))
    (closed : skipSpace after = '}' :: rest) (level : Nat) (name : String) :
    parseFields (fuel + 1) levels (newLine level ++ (printText name ++ ':' :: ' ' :: text)) =
      some ([(name, value)], rest) := by
  rw [parseFields, printText, List.cons_append, skipSpace_newLine (by decide)]
  simp only [parseText_printText, skipSpace_cons (show isSpace ':' = false by decide),
    parseValue_space parsed, closed]

private theorem parseFields_next {fields : List (String × Json)} {last : List Char}
    (parsed : parseValue fuel levels text = some (value, after))
    (followed : skipSpace after = ',' :: rest)
    (othersParsed : parseFields fuel levels rest = some (fields, last)) (level : Nat)
    (name : String) :
    parseFields (fuel + 1) levels (newLine level ++ (printText name ++ ':' :: ' ' :: text)) =
      some ((name, value) :: fields, last) := by
  rw [parseFields, printText, List.cons_append, skipSpace_newLine (by decide)]
  simp only [parseText_printText, skipSpace_cons (show isSpace ':' = false by decide),
    parseValue_space parsed, followed, othersParsed, Option.map_some]

end Field

private theorem parseFields_printIndentedFields {levels : Nat} {fields : List (String × Json)}
    (nonempty : fields ≠ []) (each : ∀ field ∈ fields, ReadBack levels field.2) (level below : Nat)
    (rest : List Char) {fuel : Nat}
    (enough : 2 * (printIndentedFields level fields).length < fuel) :
    parseFields fuel levels (printIndentedFields level fields ++ (newLine below ++ '}' :: rest)) =
      some (fields, rest) := by
  induction fields generalizing fuel with
  | nil => exact absurd rfl nonempty
  | cons field others ih =>
    obtain ⟨name, value⟩ := field
    obtain ⟨valueRead, othersRead⟩ := List.forall_mem_cons.mp each
    obtain ⟨fuel, rfl⟩ := Nat.exists_eq_add_one_of_ne_zero (Nat.ne_zero_of_lt enough)
    cases others with
    | nil =>
      simp only [printIndentedFields, List.length_append, List.length_cons] at enough
      have parsed :=
        valueRead level (newLine below ++ '}' :: rest) fuel (endsNumber_newLine _ _)
          (by dsimp only; omega)
      simp only [printIndentedFields, List.append_assoc, List.cons_append]
      exact parseFields_last parsed (skipSpace_newLine (by decide) below rest) level name
    | cons next others =>
      simp only [printIndentedFields_cons, List.length_append, List.length_cons] at enough
      have parsed :=
        valueRead level (',' :: (printIndentedFields level (next :: others) ++
          (newLine below ++ '}' :: rest))) fuel
        (endsNumber_cons (by decide) _) (by dsimp only; omega)
      have othersParsed :=
        ih (by simp) othersRead
          (show 2 * (printIndentedFields level (next :: others)).length < fuel by omega)
      simp only [printIndentedFields_cons, List.append_assoc, List.cons_append]
      exact parseFields_next parsed (skipSpace_cons (by decide) _) othersParsed level name

private theorem parseValue_bracket (fuel levels : Nat) (rest : List Char) :
    parseValue fuel levels (']' :: rest) = none := by
  cases fuel with
  | zero => simp [parseValue]
  | succ fuel => simp [parseValue, skipSpace, isSpace]

private theorem parseItems_bracket (fuel levels : Nat) (rest : List Char) :
    parseItems fuel levels (']' :: rest) = none := by
  cases fuel with
  | zero => simp [parseItems]
  | succ fuel => simp [parseItems, parseValue_bracket]

private theorem parseFields_brace (fuel levels : Nat) (rest : List Char) :
    parseFields fuel levels ('}' :: rest) = none := by
  cases fuel with
  | zero => simp [parseFields]
  | succ fuel => simp [parseFields, skipSpace, isSpace]

private theorem parseValue_array {fuel levels : Nat} {text rest : List Char} {items : List Json}
    (parsed : parseItems fuel levels text = some (items, rest)) :
    parseValue (fuel + 1) (levels + 1) ('[' :: text) = some (.array items, rest) := by
  rw [← parseItems_skipSpace] at parsed
  simp only [parseValue, skipSpace_cons (show isSpace '[' = false by decide)]
  split
  · next closed =>
    rw [closed, parseItems_bracket] at parsed
    cases parsed
  · rw [parsed, Option.map_some]

private theorem parseValue_object {fuel levels : Nat} {text rest : List Char}
    {fields : List (String × Json)} (parsed : parseFields fuel levels text = some (fields, rest)) :
    parseValue (fuel + 1) (levels + 1) ('{' :: text) = some (.object fields, rest) := by
  rw [← parseFields_skipSpace] at parsed
  simp only [parseValue, skipSpace_cons (show isSpace '{' = false by decide)]
  split
  · next closed =>
    rw [closed, parseFields_brace] at parsed
    cases parsed
  · rw [parsed, Option.map_some]

theorem WholeWithin.readBack {levels : Nat} {value : Json} (whole : WholeWithin levels value) :
    ReadBack levels value := by
  induction whole with
  | null =>
    intro level rest fuel _ enough
    obtain ⟨fuel, rfl⟩ := Nat.exists_eq_add_one_of_ne_zero (Nat.ne_zero_of_lt enough)
    rw [printIndented, parseValue_null]
  | bool value =>
    intro level rest fuel _ enough
    obtain ⟨fuel, rfl⟩ := Nat.exists_eq_add_one_of_ne_zero (Nat.ne_zero_of_lt enough)
    rw [printIndented, parseValue_bool]
  | int value =>
    intro level rest fuel ends enough
    obtain ⟨fuel, rfl⟩ := Nat.exists_eq_add_one_of_ne_zero (Nat.ne_zero_of_lt enough)
    rw [printIndented, parseValue_printInt value fuel _ ends]
  | string text =>
    intro level rest fuel _ enough
    obtain ⟨fuel, rfl⟩ := Nat.exists_eq_add_one_of_ne_zero (Nat.ne_zero_of_lt enough)
    rw [printIndented, parseValue_printText]
  | @array levels items _ ih =>
    intro level rest fuel _ enough
    obtain ⟨fuel, rfl⟩ := Nat.exists_eq_add_one_of_ne_zero (Nat.ne_zero_of_lt enough)
    cases items with
    | nil => simp [printIndented, parseValue, skipSpace, isSpace]
    | cons item others =>
      simp only [printIndented, List.isEmpty_cons, Bool.false_eq_true, if_false, List.length_cons,
        List.length_append] at enough
      simp only [printIndented, List.isEmpty_cons, Bool.false_eq_true, if_false, List.cons_append,
        List.append_assoc]
      exact parseValue_array
        (parseItems_printIndentedItems (by simp) ih (level + 1) level rest (by omega))
  | @object levels fields _ ih =>
    intro level rest fuel _ enough
    obtain ⟨fuel, rfl⟩ := Nat.exists_eq_add_one_of_ne_zero (Nat.ne_zero_of_lt enough)
    cases fields with
    | nil => simp [printIndented, parseValue, skipSpace, isSpace]
    | cons field others =>
      simp only [printIndented, List.isEmpty_cons, Bool.false_eq_true, if_false, List.length_cons,
        List.length_append] at enough
      simp only [printIndented, List.isEmpty_cons, Bool.false_eq_true, if_false, List.cons_append,
        List.append_assoc]
      exact parseValue_object
        (parseFields_printIndentedFields (by simp) ih (level + 1) level rest (by omega))

/-- The text of a value, with a line feed at its end, is read back as the value. -/
theorem WholeWithin.parse?_indented {value : Json} (whole : WholeWithin nestingLimit value) :
    parse? (value.indented ++ "\n") = some value := by
  have chars : (value.indented ++ "\n").toList = printIndented 0 value ++ ['\n'] := by
    simp [indented]
  have read :=
    whole.readBack 0 ['\n'] (2 * (printIndented 0 value ++ ['\n']).length + 2)
      (endsNumber_cons (by decide) [])
    (by simp; omega)
  rw [parse?, chars]
  simp only [read]
  rfl

end Symtab.Json
