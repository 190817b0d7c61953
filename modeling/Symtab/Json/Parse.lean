import Symtab.Json.Basic

/-!
# Reading JSON

The value that a text denotes, if it is JSON. Nesting is limited to 127 levels. Escapes of half a
surrogate pair and control characters inside strings are refused.
-/

set_option autoImplicit false

namespace Symtab.Json

/-- The number of levels that values can be nested. -/
def nestingLimit : Nat := 127

/-- Whether a character is white space between the parts of a value. -/
def isSpace (c : Char) : Bool :=
  c == ' ' || c == '\t' || c == '\n' || c == '\r'

/-- The text after any white space. -/
def skipSpace (text : List Char) : List Char :=
  text.dropWhile isSpace

/-- The value of a hexadecimal digit. -/
def hexValue? (c : Char) : Option Nat :=
  if '0' ≤ c ∧ c ≤ '9' then some (c.toNat - 48)
  else if 'a' ≤ c ∧ c ≤ 'f' then some (c.toNat - 87)
  else if 'A' ≤ c ∧ c ≤ 'F' then some (c.toNat - 55)
  else none

/-- The value of four hexadecimal digits. -/
def hex4? (a b c d : Char) : Option Nat := do
  return (((← hexValue? a) * 16 + (← hexValue? b)) * 16 + (← hexValue? c)) * 16 + (← hexValue? d)

/-- The character of an escape of one letter. -/
def simpleEscape? (c : Char) : Option Char :=
  if c = '"' then some '"'
  else if c = '\\' then some '\\'
  else if c = '/' then some '/'
  else if c = 'b' then some '\x08'
  else if c = 'f' then some '\x0c'
  else if c = 'n' then some '\n'
  else if c = 'r' then some '\r'
  else if c = 't' then some '\t'
  else none

/-- The character of a code unit that is no half of a surrogate pair. -/
def charOfUnit? (unit : Nat) : Option Char :=
  if 0xD800 ≤ unit ∧ unit ≤ 0xDFFF then none else some (Char.ofNat unit)

/-- The character of a surrogate pair. -/
def charOfPair? (high low : Nat) : Option Char :=
  if 0xD800 ≤ high ∧ high ≤ 0xDBFF ∧ 0xDC00 ≤ low ∧ low ≤ 0xDFFF then
    some (Char.ofNat (0x10000 + (high - 0xD800) * 0x400 + (low - 0xDC00)))
  else
    none

/-- The rest of a string after its opening quote and the characters `done`, last first, and what
follows its closing quote. -/
def parseText (done : List Char) : List Char → Option (String × List Char)
  | [] => none
  | '"' :: rest => some (String.ofList done.reverse, rest)
  | '\\' :: 'u' :: a :: b :: c :: d :: '\\' :: 'u' :: e :: f :: g :: h :: rest =>
    match hex4? a b c d with
    | none => none
    | some unit =>
      match charOfUnit? unit with
      | some char => parseText (char :: done) ('\\' :: 'u' :: e :: f :: g :: h :: rest)
      | none =>
        match (hex4? e f g h).bind (charOfPair? unit) with
        | some char => parseText (char :: done) rest
        | none => none
  | '\\' :: 'u' :: a :: b :: c :: d :: rest =>
    match (hex4? a b c d).bind charOfUnit? with
    | some char => parseText (char :: done) rest
    | none => none
  | '\\' :: c :: rest =>
    match simpleEscape? c with
    | some char => parseText (char :: done) rest
    | none => none
  | c :: rest => if c = '\\' ∨ c.toNat < 0x20 then none else parseText (c :: done) rest

/-- The longest run of digits at the start of a text, and what follows it. -/
def splitDigits (text : List Char) : List Char × List Char :=
  text.span Char.isDigit

/-- The number that digits stand for. -/
def digitsValue (digits : List Char) : Nat :=
  digits.foldl (fun value digit => value * 10 + (digit.toNat - 48)) 0

/-- A fraction at the start of a text, as it is written; nothing is there without a dot. -/
def parseFraction : List Char → Option (List Char × List Char)
  | '.' :: rest =>
    let (digits, after) := splitDigits rest
    if digits.isEmpty then none else some ('.' :: digits, after)
  | text => some ([], text)

/-- The sign of an exponent, if there is one. -/
def splitSign : List Char → List Char × List Char
  | '+' :: rest => (['+'], rest)
  | '-' :: rest => (['-'], rest)
  | text => ([], text)

/-- An exponent at the start of a text, as it is written; nothing is there without its letter. -/
def parseExponent : List Char → Option (List Char × List Char)
  | c :: rest =>
    if c = 'e' ∨ c = 'E' then
      let (sign, signed) := splitSign rest
      let (digits, after) := splitDigits signed
      if digits.isEmpty then none else some (c :: sign ++ digits, after)
    else
      some ([], c :: rest)
  | [] => some ([], [])

/-- A number without its sign at the start of a text. -/
def parseNumber (negative : Bool) (text : List Char) : Option (Json × List Char) := do
  let (digits, afterDigits) := splitDigits text
  if digits.isEmpty ∨ (digits.length > 1 ∧ digits.head? = some '0') then
    none
  else
    let (fraction, afterFraction) ← parseFraction afterDigits
    let (exponent, after) ← parseExponent afterFraction
    let sign := if negative then ['-'] else []
    let value := digitsValue digits
    if fraction.isEmpty ∧ exponent.isEmpty ∧ ¬(negative ∧ value = 0) then
      return (.int (if negative then -(value : Int) else value), after)
    else
      return (.decimal (String.ofList (sign ++ digits ++ fraction ++ exponent)), after)

/-- The text after a given word, if it starts with it. -/
def skipWord? (word : String) (text : List Char) : Option (List Char) :=
  if word.toList.isPrefixOf text then some (text.drop word.length) else none

mutual

/-- A value at the start of a text, with at most `levels` levels of nesting, and what follows it.
The fuel bounds the number of steps; twice the length of the text is enough. -/
def parseValue : Nat → Nat → List Char → Option (Json × List Char)
  | 0, _, _ => none
  | fuel + 1, levels, text =>
    match skipSpace text with
    | [] => none
    | '"' :: rest => (parseText [] rest).map fun (text, after) => (.string text, after)
    | '[' :: rest =>
      match levels with
      | 0 => none
      | levels + 1 =>
        match skipSpace rest with
        | ']' :: after => some (.array [], after)
        | start => (parseItems fuel levels start).map fun (items, after) => (.array items, after)
    | '{' :: rest =>
      match levels with
      | 0 => none
      | levels + 1 =>
        match skipSpace rest with
        | '}' :: after => some (.object [], after)
        | start =>
          (parseFields fuel levels start).map fun (fields, after) => (.object fields, after)
    | '-' :: rest => parseNumber true rest
    | c :: rest =>
      if c.isDigit then parseNumber false (c :: rest)
      else if c = 'n' then (skipWord? "null" (c :: rest)).map fun after => (.null, after)
      else if c = 't' then (skipWord? "true" (c :: rest)).map fun after => (.bool true, after)
      else if c = 'f' then (skipWord? "false" (c :: rest)).map fun after => (.bool false, after)
      else none

/-- The items of an array up to its closing bracket, at least one. -/
def parseItems : Nat → Nat → List Char → Option (List Json × List Char)
  | 0, _, _ => none
  | fuel + 1, levels, text =>
    match parseValue fuel levels text with
    | none => none
    | some (item, after) =>
      match skipSpace after with
      | ']' :: rest => some ([item], rest)
      | ',' :: rest =>
        (parseItems fuel levels rest).map fun (items, after) => (item :: items, after)
      | _ => none

/-- The fields of an object up to its closing brace, at least one. -/
def parseFields : Nat → Nat → List Char → Option (List (String × Json) × List Char)
  | 0, _, _ => none
  | fuel + 1, levels, text =>
    match skipSpace text with
    | '"' :: rest =>
      match parseText [] rest with
      | none => none
      | some (name, after) =>
        match skipSpace after with
        | ':' :: rest =>
          match parseValue fuel levels rest with
          | none => none
          | some (value, after) =>
            match skipSpace after with
            | '}' :: rest => some ([(name, value)], rest)
            | ',' :: rest =>
              (parseFields fuel levels rest).map fun (fields, after) =>
                ((name, value) :: fields, after)
            | _ => none
        | _ => none
    | _ => none

end

/-- The value that a text denotes, if it is JSON. -/
def parse? (text : String) : Option Json :=
  let chars := text.toList
  match parseValue (2 * chars.length + 2) nestingLimit chars with
  | some (value, after) => if (skipSpace after).isEmpty then some value else none
  | none => none

end Symtab.Json
