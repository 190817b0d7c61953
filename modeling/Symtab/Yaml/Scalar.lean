import Symtab.Yaml.Input

/-!
# Scalars

The texts of a stream: plain, between quotes, or as a block of indented lines. A line end inside a
plain or a quoted text becomes a space, and of several line ends all but the first are kept.
-/

set_option autoImplicit false

namespace Symtab.Yaml

/-- The blanks and line ends between two parts of a text. -/
structure Gap where
  /-- The blanks before the first line end, last first. -/
  blanks : List Char := []
  /-- The text of the first line end. -/
  firstBreak : Option (List Char) := none
  /-- The texts of the further line ends. -/
  moreBreaks : List Char := []

namespace Gap

/-- What a gap stands for. -/
def folded (gap : Gap) : List Char :=
  match gap.firstBreak with
  | none => gap.blanks.reverse
  | some ['\n'] => if gap.moreBreaks.isEmpty then [' '] else gap.moreBreaks
  | some other => other ++ gap.moreBreaks

/-- Adds a line end to a gap. The blanks before the first one are dropped. -/
def addBreak (gap : Gap) (text : List Char) : Gap :=
  match gap.firstBreak with
  | none => { blanks := [], firstBreak := some text }
  | some _ => { gap with moreBreaks := gap.moreBreaks ++ text }

/-- Adds a blank to a gap. Blanks after a line end are dropped. -/
def addBlank (gap : Gap) (blank : Char) : Gap :=
  match gap.firstBreak with
  | none => { gap with blanks := blank :: gap.blanks }
  | some _ => gap

end Gap

/-- Reads blanks and line ends. A tab that stands before the column `indent` of a further line is
refused. The fuel bounds the number of characters. -/
def readGap (indent : Int) : Nat → Gap → Input → Option (Gap × Input)
  | 0, gap, input => some (gap, input)
  | fuel + 1, gap, input =>
    match input.rest with
    | [] => some (gap, input)
    | c :: _ =>
      if isBlank c then
        if c == '\t' && gap.firstBreak.isSome && (input.column : Int) < indent then none
        else readGap indent fuel (gap.addBlank c) input.skip
      else if isBreak c then
        let (text, after) := input.readBreak
        readGap indent fuel (gap.addBreak text) after
      else
        some (gap, input)

/-! ## Plain texts -/

/-- Whether a character separates the items of a collection in brackets. -/
def isFlowMark (c : Char) : Bool :=
  c == ',' || c == '[' || c == ']' || c == '{' || c == '}'

/-- Whether a text starts with a gap, or is empty. -/
def startsWithGap (text : List Char) : Bool :=
  text.head?.all fun c => isBlank c || isBreak c

/-- The longest start of a text without gaps that belongs to a plain text. Inside brackets a colon
right before a mark is refused. -/
def plainRun? (inFlow : Bool) : List Char → Option (List Char)
  | [] => some []
  | c :: rest =>
    if isBlank c || isBreak c then some []
    else if inFlow && c == ':' &&
        rest.head?.any fun next => isFlowMark next || next == '?' then none
    else if (c == ':' && startsWithGap rest) || (inFlow && isFlowMark c) then some []
    else (plainRun? inFlow rest).map (c :: ·)

/-- A text that has been read, last character first, whether its last gap has a line end, and what
follows. -/
structure PlainText where
  text : List Char
  crossedLine : Bool
  after : Input

/-- Reads a plain text that has been read up to `text`, last character first, and a gap. Outside of
brackets it ends before a line that starts before the column `indent`. -/
def readPlain (inFlow : Bool) (indent : Int) : Nat → List Char → Gap → Input → Option PlainText
  | 0, _, _, _ => none
  | fuel + 1, text, gap, input =>
    let done : PlainText := ⟨text, gap.firstBreak.isSome, input⟩
    if input.atDocumentMark || input.startsWith '#' then
      some done
    else
      match plainRun? inFlow input.rest with
      | none => none
      | some [] => some done
      | some run =>
        let text := run.reverse ++ gap.folded.reverse ++ text
        let after := input.skip run.length
        match readGap indent (after.rest.length + 1) {} after with
        | none => none
        | some (gap, next) =>
          if after.gapAt 0 && !after.atEnd && (inFlow || indent ≤ (next.column : Int)) then
            readPlain inFlow indent fuel text gap next
          else
            some ⟨text, gap.firstBreak.isSome, next⟩

/-! ## Quoted texts -/

/-- The character of an escape of one letter. -/
def simpleEscape? (c : Char) : Option Char :=
  match c with
  | '0' => some '\x00'
  | 'a' => some '\x07'
  | 'b' => some '\x08'
  | 't' => some '\t'
  | '\t' => some '\t'
  | 'n' => some '\n'
  | 'v' => some '\x0b'
  | 'f' => some '\x0c'
  | 'r' => some '\r'
  | 'e' => some '\x1b'
  | ' ' => some ' '
  | '"' => some '"'
  | '/' => some '/'
  | '\\' => some '\\'
  | 'N' => some '\u0085'
  | '_' => some '\u00a0'
  | 'L' => some '\u2028'
  | 'P' => some '\u2029'
  | _ => none

/-- The number of digits of an escape by code point. -/
def escapeDigits? (c : Char) : Option Nat :=
  match c with
  | 'x' => some 2
  | 'u' => some 4
  | 'U' => some 8
  | _ => none

/-- The number that hexadecimal digits stand for. -/
def hexNumber? (digits : List Char) : Option Nat :=
  digits.foldlM (fun value digit => (hexValue? digit).map (value * 16 + ·)) 0

/-- The character of a code point, which must be one. -/
def charOfPoint? (point : Nat) : Option Char :=
  if (0xD800 ≤ point ∧ point ≤ 0xDFFF) ∨ 0x10FFFF < point then none else some (Char.ofNat point)

/-- The escaped character after a backslash, and what follows it. -/
def readEscape? (input : Input) : Option (Char × Input) :=
  match input.rest with
  | [] => none
  | c :: rest =>
    match escapeDigits? c with
    | some count =>
      let digits := rest.take count
      if digits.length = count then do
        let char ← charOfPoint? (← hexNumber? digits)
        return (char, input.skip (count + 1))
      else
        none
    | none => (simpleEscape? c).map fun char => (char, input.skip)

/-- What ends a part of a quoted text. -/
inductive QuotedStop where
  /-- A blank, a line end, the closing quote or the end of the stream. -/
  | here
  /-- A line end after a backslash, which has been passed over. -/
  | escapedBreak

/-- Reads characters of a quoted text up to a gap or the closing quote. -/
def readQuotedRun (quote : Char) : Nat → List Char → Input → Option (List Char × QuotedStop × Input)
  | 0, _, _ => none
  | fuel + 1, text, input =>
    match input.rest with
    | [] => some (text, .here, input)
    | c :: rest =>
      if isBlank c || isBreak c then some (text, .here, input)
      else if c == quote then
        if quote == '\'' && rest.head? == some quote
          then readQuotedRun quote fuel (quote :: text) (input.skip 2)
        else some (text, .here, input)
      else if c == '\\' && quote == '"' then
        if rest.head?.any isBreak then some (text, .escapedBreak, input.skip.skipBreak)
        else
          match readEscape? input.skip with
          | none => none
          | some (char, after) => readQuotedRun quote fuel (char :: text) after
      else
        readQuotedRun quote fuel (c :: text) input.skip

/-- Reads a quoted text after its opening quote that has been read up to `text`, last character
first. -/
def readQuoted (quote : Char) : Nat → List Char → Input → Option (List Char × Input)
  | 0, _, _ => none
  | fuel + 1, text, input =>
    if input.atDocumentMark || input.atEnd then
      none
    else
      match readQuotedRun quote (input.rest.length + 1) text input with
      | none => none
      | some (text, stop, after) =>
        if after.startsWith quote then
          some (text, after.skip)
        else
          let start : Gap :=
            match stop with
            | .here => {}
            | .escapedBreak => { firstBreak := some [] }
          match readGap 0 (after.rest.length + 1) start after with
          | none => none
          | some (gap, next) => readQuoted quote fuel (gap.folded.reverse ++ text) next

/-! ## Block texts -/

/-- What becomes of the line ends after the last line of a block text. -/
inductive Chomping where
  /-- All are dropped. -/
  | strip
  /-- The first is kept. -/
  | clip
  /-- All are kept. -/
  | keep
  deriving DecidableEq

/-- The chomping mark at the start of a stream. -/
def readChomping (input : Input) : Option (Chomping × Input) :=
  if input.startsWith '+' then some (.keep, input.skip)
  else if input.startsWith '-' then some (.strip, input.skip)
  else none

/-- The indentation mark at the start of a stream: nothing, or a digit, which must not be zero. -/
def readIndentation (input : Input) : Option (Nat × Input) :=
  match input.rest with
  | c :: _ =>
    if c.isDigit then if c == '0' then none else some (c.toNat - 48, input.skip)
    else some (0, input)
  | [] => some (0, input)

/-- The marks after the start of a block text, in either order: how to chomp and how far to
indent. -/
def readBlockMarks (input : Input) : Option (Chomping × Nat × Input) :=
  match readChomping input with
  | some (chomping, after) =>
    (readIndentation after).map fun (increment, after) => (chomping, increment, after)
  | none =>
    (readIndentation input).map fun (increment, after) =>
      match readChomping after with
      | some (chomping, after) => (chomping, increment, after)
      | none => (.clip, increment, after)

/-- Reads the indentation of a block text and empty lines. With an unknown indentation, given as
zero, all spaces are passed over. Gives the widest indentation seen, the line ends and what
follows. -/
def readBlockBreaks (indent : Nat) :
    Nat → Nat → List Char → Input → Option (Nat × List Char × Input)
  | 0, _, _, _ => none
  | fuel + 1, widest, breaks, input =>
    let spaces := (input.rest.takeWhile (· == ' ')).length
    let after := input.skip (if indent = 0 then spaces else min spaces (indent - input.column))
    let widest := max widest after.column
    if (indent = 0 || after.column < indent) && after.startsWith '\t' then
      none
    else if after.rest.head?.any isBreak then
      let (text, next) := after.readBreak
      readBlockBreaks indent fuel widest (breaks ++ text) next
    else
      some (widest, breaks, after)

/-- The indentation of a block text, given the widest indentation of the lines before its first
one. -/
def blockIndent (parent : Int) (widest : Nat) : Nat :=
  max (max widest (parent + 1).toNat) 1

/-- What has been read of a block text. -/
structure BlockText where
  /-- The text, last character first. -/
  text : List Char := []
  /-- The end of the line read last. -/
  lastBreak : List Char := []
  /-- The ends of the empty lines after it. -/
  moreBreaks : List Char := []
  /-- Whether the line read last starts with a blank. -/
  startsBlank : Bool := false

/-- The text with the lines so far, before a line that starts with a blank or does not. In a folded
text, the line end between two lines that do not start with blanks becomes a space or, before empty
lines, nothing. -/
def BlockText.joined (block : BlockText) (folded startsBlank : Bool) : List Char :=
  let lineBreak :=
    if folded && block.lastBreak == ['\n'] && !block.startsBlank && !startsBlank then
      if block.moreBreaks.isEmpty then [' '] else []
    else
      block.lastBreak
  block.moreBreaks.reverse ++ lineBreak.reverse ++ block.text

/-- Reads the lines of a block text with the given indentation. -/
def readBlockLines (folded : Bool) (indent : Nat) :
    Nat → BlockText → Input → Option (BlockText × Input)
  | 0, _, _ => none
  | fuel + 1, block, input =>
    if input.column = indent && !input.atEnd then
      let startsBlank := input.rest.head?.any isBlank
      let (line, afterLine) := input.readWhile fun _ => true
      let (lastBreak, after) := afterLine.readBreak
      match readBlockBreaks indent (after.rest.length + 1) 0 [] after with
      | none => none
      | some (_, moreBreaks, next) =>
        let text := line.reverse ++ block.joined folded startsBlank
        readBlockLines folded indent fuel { text, lastBreak, moreBreaks, startsBlank } next
    else
      some (block, input)

/-- Reads a block text after its first mark, inside a collection with the given indentation. -/
def readBlock? (folded : Bool) (parent : Int) (input : Input) : Option (List Char × Input) := do
  let (chomping, increment, afterMarks) ← readBlockMarks input
  let start ← afterMarks.skipLineEnd?
  let known :=
    if increment = 0 then 0 else if parent < 0 then increment else parent.toNat + increment
  let (widest, moreBreaks, first) ← readBlockBreaks known (start.rest.length + 1) 0 [] start
  let indent := if known = 0 then blockIndent parent widest else known
  let (block, after) ← readBlockLines folded indent (first.rest.length + 2) { moreBreaks } first
  let ending :=
    match chomping with
    | .strip => []
    | .clip => block.lastBreak
    | .keep => block.lastBreak ++ block.moreBreaks
  return (block.text.reverse ++ ending, after)

end Symtab.Yaml
