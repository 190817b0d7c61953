import Symtab.Text.LowerTable

/-!
# Small letters

The lower-case form of a text. Every capital letter gives its small letter; the dotted capital I
gives two characters; and a capital sigma gives the final form at the end of a word, that is after a
cased character and not before one.
-/

set_option autoImplicit false

namespace Symtab.Text

/-- The small letter of a character beyond ASCII; characters without one stand for themselves. -/
def lowerBeyondAscii (c : Char) : Char :=
  match caseRunsBeyondAscii.findSome? (·.lower? c.toNat) with
  | some point => Char.ofNat point
  | none => c

/-- The lower-case form of a single character, whatever its neighbours. -/
def lowerChar (c : Char) : List Char :=
  if c.toNat < 0x80 then [c.toLower]
  else if c = 'İ' then ['i', '\u0307']
  else [lowerBeyondAscii c]

/-- Whether the first character that is not passed over has case. -/
def meetsCased (text : List Char) : Bool :=
  match text.dropWhile caseIgnorable.contains with
  | c :: _ => cased.contains c
  | [] => false

/-- The small sigma for a capital one between `before`, nearest character first, and `after`. -/
def lowerSigma (before after : List Char) : Char :=
  if meetsCased before && !meetsCased after then 'ς' else 'σ'

/-- The lower-case form of a text that follows the characters of `before`, nearest first. -/
def lowerAfter (before : List Char) : List Char → List Char
  | [] => []
  | c :: rest =>
    let small := if c = 'Σ' then [lowerSigma before rest] else lowerChar c
    small ++ lowerAfter (c :: before) rest

/-- The lower-case form of a text. -/
def lower (text : List Char) : List Char :=
  lowerAfter [] text

end Symtab.Text
