/-!
# The text of a YAML stream

A text that is read from front to back, with the place reached. Lines end at a line feed, a carriage
return or both, and at three characters beyond ASCII; blanks are spaces and tabs.
-/

set_option autoImplicit false

namespace Symtab.Yaml

/-- Whether a character may occur in a stream. Most control characters may not. -/
def isAllowed (c : Char) : Bool :=
  let point := c.toNat
  point == 0x09 || point == 0x0A || point == 0x0D || (0x20 ≤ point && point ≤ 0x7E) ||
    point == 0x85 ||
    (0xA0 ≤ point && point ≤ 0xD7FF) || (0xE000 ≤ point && point ≤ 0xFFFD) || 0x10000 ≤ point

/-- Whether a character is a space or a tab. -/
def isBlank (c : Char) : Bool :=
  c == ' ' || c == '\t'

/-- Whether a character ends a line and is kept as it is. -/
def isSeparator (c : Char) : Bool :=
  c == '\u2028' || c == '\u2029'

/-- Whether a character ends a line. -/
def isBreak (c : Char) : Bool :=
  c == '\n' || c == '\r' || c == '\u0085' || isSeparator c

/-- Whether a character may occur in the name of an anchor or a directive. -/
def isNameChar (c : Char) : Bool :=
  c.isAlphanum || c == '_' || c == '-'

/-- The value of a hexadecimal digit. -/
def hexValue? (c : Char) : Option Nat :=
  if c.isDigit then some (c.toNat - 48)
  else if 'a' ≤ c ∧ c ≤ 'f' then some (c.toNat - 87)
  else if 'A' ≤ c ∧ c ≤ 'F' then some (c.toNat - 55)
  else none

/-- The unread part of a stream and the place where it starts. -/
structure Input where
  rest : List Char
  /-- The number of characters read. -/
  index : Nat := 0
  /-- The number of lines read. -/
  line : Nat := 0
  /-- The number of characters read of the current line. -/
  column : Nat := 0

namespace Input

/-- Whether the character at a distance passes a test. -/
def has (input : Input) (distance : Nat) (test : Char → Bool) : Bool :=
  input.rest[distance]?.any test

/-- Whether the next character is the given one. -/
def startsWith (input : Input) (c : Char) : Bool :=
  input.rest.head? == some c

/-- Whether everything has been read. -/
def atEnd (input : Input) : Bool :=
  input.rest.isEmpty

/-- Whether there is a line end or the end of the stream. -/
def atLineEnd (input : Input) : Bool :=
  input.rest.head?.all isBreak

/-- Whether there is a blank, a line end or the end of the stream at a distance. -/
def gapAt (input : Input) (distance : Nat) : Bool :=
  input.rest[distance]?.all fun c => isBlank c || isBreak c

/-- Passes over characters that end no line. -/
def skip (input : Input) (count : Nat := 1) : Input :=
  { input with rest := input.rest.drop count, index := input.index + count, column := input.column + count }

/-- Passes over a line end, if there is one, and gives the text that stands for it. -/
def readBreak (input : Input) : List Char × Input :=
  match input.rest with
  | '\r' :: '\n' :: rest => (['\n'], { rest, index := input.index + 2, line := input.line + 1 })
  | c :: rest =>
    if isBreak c then
      ([if isSeparator c then c else '\n'],
        { rest, index := input.index + 1, line := input.line + 1 })
    else
      ([], input)
  | [] => ([], input)

/-- Passes over a line end, if there is one. -/
def skipBreak (input : Input) : Input :=
  input.readBreak.2

/-- The longest run of characters that pass a test, none of which ends a line, and what follows
it. -/
def readWhile (input : Input) (test : Char → Bool) : List Char × Input :=
  let run := input.rest.takeWhile fun c => test c && !isBreak c
  (run, input.skip run.length)

/-- Passes over the longest run of characters that pass a test, none of which ends a line. -/
def skipWhile (input : Input) (test : Char → Bool) : Input :=
  (input.readWhile test).2

/-- Passes over a comment, if there is one. -/
def skipComment (input : Input) : Input :=
  if input.startsWith '#' then input.skipWhile fun _ => true else input

/-- Passes over blanks, a comment and the line end, if nothing else stands there. -/
def skipLineEnd? (input : Input) : Option Input :=
  let after := (input.skipWhile isBlank).skipComment
  if after.atLineEnd then some after.skipBreak else none

/-- Whether a line starts with the given mark of a document, followed by a gap. -/
def atMark (input : Input) (mark : Char) : Bool :=
  input.column == 0 && [mark, mark, mark].isPrefixOf input.rest && input.gapAt 3

/-- Whether a line starts with a mark of a document. -/
def atDocumentMark (input : Input) : Bool :=
  input.atMark '-' || input.atMark '.'

end Input

end Symtab.Yaml
