import Symtab.Text.Basic
import Symtab.Text.Word

/-!
# Line patterns

The shapes that declarations have on a line. A pattern is a tree of pieces; its parts of interest
are named by slots. What it means for a pattern to match, and which match is preferred, is said in
`Symtab.Pattern.Match`.
-/

set_option autoImplicit false

namespace Symtab

/-- The parts of a line that a pattern can pick out. -/
inductive Slot where
  /-- The declared identifier. -/
  | name
  /-- A list of declared identifiers, as written. -/
  | names
  /-- The written type. -/
  | type
  /-- The construct that a member is declared for. -/
  | owner
  /-- The word that introduces the declaration. -/
  | keyword
  /-- A word that changes the meaning of the declaration. -/
  | modifier
  /-- Everything before the name of a function. -/
  | head
  /-- The text between the parentheses after a name. -/
  | parameters
  /-- What ends a declaration: its body or its semicolon. -/
  | tail
  /-- A module path, or the text that stands for one. -/
  | path
  /-- The mark that imports all members of a path. -/
  | wildcard
  /-- The items of an import list. -/
  | items
  /-- A name that an import is bound to. -/
  | binding
  deriving DecidableEq, Repr

/-- A shape that a piece of a line can have. -/
inductive Pattern where
  /-- Nothing at all. -/
  | empty
  /-- Exactly the given characters. -/
  | literal (text : List Char)
  /-- One character of a class. -/
  | one (inClass : Char → Bool)
  /-- Characters of a class, as many as possible. -/
  | many (inClass : Char → Bool)
  /-- Characters of a class, as few as possible. -/
  | few (inClass : Char → Bool)
  /-- One piece and then another. -/
  | sequence (first second : Pattern)
  /-- One piece, or if that leads nowhere another. -/
  | choice (first second : Pattern)
  /-- Repetitions of a piece, as many as possible. -/
  | repeated (piece : Pattern)
  /-- A piece whose text is kept under a slot. -/
  | capture (slot : Slot) (piece : Pattern)
  /-- The start of the line. -/
  | lineStart
  /-- The end of the line. -/
  | lineEnd
  /-- A place with a word character on exactly one side. -/
  | wordEdge

namespace Pattern

instance : Append Pattern := ⟨sequence⟩

instance : OrElse Pattern := ⟨fun first second => choice first (second ())⟩

/-- The given text. -/
def text (written : String) : Pattern :=
  literal written.toList

/-- The given character. -/
def char (c : Char) : Pattern :=
  literal [c]

/-- At least one character of a class, as many as possible. -/
def many1 (inClass : Char → Bool) : Pattern :=
  one inClass ++ many inClass

/-- At least one character of a class, as few as possible. -/
def few1 (inClass : Char → Bool) : Pattern :=
  one inClass ++ few inClass

/-- A piece if it is there, else nothing. -/
def optional (piece : Pattern) : Pattern :=
  choice piece empty

/-- At least one repetition of a piece, as many as possible. -/
def repeated1 (piece : Pattern) : Pattern :=
  piece ++ repeated piece

/-- The first of the given texts that leads to a match. -/
def anyText : List String → Pattern
  | [] => one fun _ => false
  | [written] => text written
  | written :: rest => choice (text written) (anyText rest)

/-- Any white space, or none. -/
def blanks : Pattern :=
  many Text.isBlank

/-- Some white space. -/
def blanks1 : Pattern :=
  many1 Text.isBlank

/-- A run of word characters. -/
def word : Pattern :=
  many1 Text.isWord

/-- The characters other than those of a text. -/
def noneOf (excluded : List Char) (c : Char) : Bool :=
  !excluded.contains c

/-- The characters of a text. -/
def oneOf (included : List Char) (c : Char) : Bool :=
  included.contains c

/-- The word characters and those of a text. -/
def wordOr (included : List Char) (c : Char) : Bool :=
  Text.isWord c || included.contains c

/-- The characters other than a line feed, which no pattern reaches over. -/
def inLine (c : Char) : Bool :=
  c != '\n'

/-- A letter of the ASCII alphabet or `_`. -/
def isAsciiNameStart (c : Char) : Bool :=
  c.isAlpha || c == '_'

end Pattern

end Symtab
