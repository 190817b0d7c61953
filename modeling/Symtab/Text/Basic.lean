/-!
# Texts

What every reading of texts needs: sets of characters, white space and what is left of a text once
it is stripped, and lines. A text is a list of characters.
-/

set_option autoImplicit false

namespace Symtab.Text

/-!
## Sets of characters
-/

/-- A set of characters, given by the code points at which membership changes, in increasing order.
Characters before the first bound are outside, those from the first up to the second are inside, and
so on. -/
structure CharSet where
  bounds : List Nat

namespace CharSet

/-- Membership of a code point, when `inside` says how the characters before the first of `bounds`
stand. -/
def within (inside : Bool) : List Nat → Nat → Bool
  | [], _ => inside
  | bound :: rest, point => if point < bound then inside else within (!inside) rest point

/-- Whether a character is in the set. -/
def contains (set : CharSet) (c : Char) : Bool :=
  within false set.bounds c.toNat

end CharSet

/-!
## White space
-/

/-- Whether a character is white space: tab to carriage return, the plain space, the next-line
control, and the spaces and line separators beyond ASCII. -/
def isBlank (c : Char) : Bool :=
  let point := c.toNat
  (0x09 ≤ point && point ≤ 0x0D) || point == 0x20 || point == 0x85 || point == 0xA0 ||
    point == 0x1680 ||
    (0x2000 ≤ point && point ≤ 0x200A) || point == 0x2028 || point == 0x2029 || point == 0x202F ||
      point == 0x205F ||
    point == 0x3000

/-- The text without the longest run of characters of the class at its end. -/
def stripEnd (inClass : Char → Bool) (text : List Char) : List Char :=
  (text.reverse.dropWhile inClass).reverse

/-- The text without the longest runs of characters of the class at both ends. -/
def strip (inClass : Char → Bool) (text : List Char) : List Char :=
  stripEnd inClass (text.dropWhile inClass)

/-- The text without white space at either end. -/
def trim (text : List Char) : List Char :=
  strip isBlank text

/-- The maximal runs of characters that are not blank, in order. -/
def words (text : List Char) : List (List Char) :=
  (text.splitOnP isBlank).filter fun word => !word.isEmpty

/-!
## Lines

A text is cut into lines at each line feed. One carriage return before a line feed belongs to the
line end; a carriage return anywhere else is an ordinary character. The end of the text ends the
last line, and an empty last line is no line.
-/

/-- A line, read backwards, without the carriage return that its line feed may follow. -/
def dropCarriageReturn : List Char → List Char
  | '\r' :: rest => rest
  | current => current

/-- The lines of a text, when the characters of `current`, last first, have been read of the first
one. -/
def linesFrom (current : List Char) : List Char → List (List Char)
  | [] => if current.isEmpty then [] else [current.reverse]
  | c :: rest =>
    if c = '\n' then (dropCarriageReturn current).reverse :: linesFrom [] rest
    else linesFrom (c :: current) rest

/-- The lines of a text, without their line ends. -/
def lines (text : List Char) : List (List Char) :=
  linesFrom [] text

end Symtab.Text
