import Symtab.Text.Basic

/-!
# Cutting texts at a given piece

Finding the first place where one text occurs in another, and what stands before and after it.
-/

set_option autoImplicit false

namespace Symtab.Text

/-- What stands before and after the first occurrence of `needle`, or nothing if there is no
occurrence. -/
def cut? (needle : List Char) : List Char → Option (List Char × List Char)
  | [] => if needle.isEmpty then some ([], []) else none
  | c :: rest =>
    if needle.isPrefixOf (c :: rest) then
      some ([], (c :: rest).drop needle.length)
    else
      (cut? needle rest).map fun (before, after) => (c :: before, after)

/-- What stands before the first occurrence of `needle`; the whole text if there is none. -/
def before (needle text : List Char) : List Char :=
  match cut? needle text with
  | some (start, _) => start
  | none => text

/-- Whether `needle` occurs in the text as a run of consecutive characters. -/
def occursIn (needle text : List Char) : Bool :=
  (cut? needle text).isSome

/-- What is left after the text `leading`, if the text starts with it. -/
def dropPrefix? (leading text : List Char) : Option (List Char) :=
  if leading.isPrefixOf text then some (text.drop leading.length) else none

/-- What is left before the text `trailing`, if the text ends with it. -/
def dropSuffix? (trailing text : List Char) : Option (List Char) :=
  if trailing.isSuffixOf text then some (text.take (text.length - trailing.length)) else none

/-- The text without any repetition of `leading` at its start. -/
def dropLeading (leading text : List Char) : List Char :=
  if _shrinks : leading ≠ [] ∧ leading.isPrefixOf text = true then
    dropLeading leading (text.drop leading.length)
  else
    text
termination_by text.length
decreasing_by
  have fits : leading.length ≤ text.length := List.IsPrefix.length_le (by simpa using _shrinks.2)
  have positive := List.length_pos_iff.mpr _shrinks.1
  simp only [List.length_drop]
  omega

/-- The part of the text after the last occurrence of a character; the whole text if there is
none. -/
def afterLast (separator : Char) (text : List Char) : List Char :=
  ((text.splitOn separator).getLast?).getD text

/-- The last segment of a path with the given separator, without white space at its ends. -/
def lastSegment (separator : Char) (path : List Char) : List Char :=
  trim (afterLast separator path)

end Symtab.Text
