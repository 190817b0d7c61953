import Symtab.Yaml.Scalar

/-!
# Tokens

The parts of a YAML stream, and the reading of those that have a name: anchors, tags and directives.
-/

set_option autoImplicit false

namespace Symtab.Yaml

/-- A part of a stream. -/
inductive Token where
  | streamEnd
  | versionDirective (major minor : Nat)
  | tagDirective (handle leading : List Char)
  | documentStart
  | documentEnd
  | blockSequenceStart
  | blockMappingStart
  | blockEnd
  | flowSequenceStart
  | flowSequenceEnd
  | flowMappingStart
  | flowMappingEnd
  | blockEntry
  | flowEntry
  | key
  | value
  | alias (name : List Char)
  | anchor (name : List Char)
  | tag (handle suffix : List Char)
  | scalar (text : List Char) (plain : Bool)
  deriving DecidableEq, Repr

/-- The name of an anchor or alias after its mark. -/
def readAnchor? (input : Input) : Option (List Char × Input) :=
  let (name, after) := input.readWhile isNameChar
  let closed := after.gapAt 0 || after.has 0 fun c => "?:,]\x7d%@`".toList.contains c
  if name.isEmpty || !closed then none else some (name, after)

/-- The number of bytes that an escaped first byte of a character announces. -/
def announcedWidth? (byte : Nat) : Option Nat :=
  if byte < 0x80 then some 1
  else if 0xC0 ≤ byte ∧ byte < 0xE0 then some 2
  else if 0xE0 ≤ byte ∧ byte < 0xF0 then some 3
  else if 0xF0 ≤ byte ∧ byte < 0xF8 then some 4
  else none

/-- An escaped byte of a tag, and what follows it. -/
def readByte? (input : Input) : Option (Nat × Input) :=
  match input.rest with
  | '%' :: high :: low :: _ => do return ((← hexValue? high) * 16 + (← hexValue? low), input.skip 3)
  | _ => none

/-- The further escaped bytes of a character. -/
def readMoreBytes? (point : Nat) : Nat → Input → Option (Nat × Input)
  | 0, input => some (point, input)
  | missing + 1, input =>
    match readByte? input with
    | some (byte, after) =>
      if 0x80 ≤ byte ∧ byte <
        0xC0 then readMoreBytes? (point * 0x40 + (byte - 0x80)) missing after else none
    | none => none

/-- The payload of the first byte of a character of the given width. -/
def firstPayload (byte width : Nat) : Nat :=
  if width = 1 then byte else byte % (128 >>> width)

/-- A character of a tag that is written as escaped bytes. -/
def readEscapedChar? (input : Input) : Option (Char × Input) := do
  let (byte, after) ← readByte? input
  let width ← announcedWidth? byte
  let (point, after) ← readMoreBytes? (firstPayload byte width) (width - 1) after
  return (Char.ofNat point, after)

/-- Whether a character may occur in a tag. The marks of collections in brackets may occur only
where `wide` is set. -/
def isTagChar (wide : Bool) (c : Char) : Bool :=
  isNameChar c || ";/?:@&=+$.%!~*'()".toList.contains c ||
    (wide && (c == ',' || c == '[' || c == ']'))

/-- Reads the characters of a tag, after those of `text`, last first. -/
def readTagChars (wide : Bool) : Nat → List Char → Input → Option (List Char × Input)
  | 0, _, _ => none
  | fuel + 1, text, input =>
    match input.rest with
    | c :: _ =>
      if !isTagChar wide c then some (text.reverse, input)
      else if c == '%' then
        match readEscapedChar? input with
        | some (char, after) => readTagChars wide fuel (char :: text) after
        | none => none
      else readTagChars wide fuel (c :: text) input.skip
    | [] => some (text.reverse, input)

/-- Reads at least one character of a tag. -/
def readTagText? (wide : Bool) (input : Input) : Option (List Char × Input) := do
  let (text, after) ← readTagChars wide (input.rest.length + 1) [] input
  if text.isEmpty then none else some (text, after)

/-- Reads the handle of a tag, which starts with an exclamation mark and may end with another. -/
def readHandle? (input : Input) : Option (List Char × Input) :=
  if input.startsWith '!' then
    let (name, after) := input.skip.readWhile isNameChar
    if after.startsWith '!' then some ('!' :: name ++ ['!'], after.skip)
    else some ('!' :: name, after)
  else
    none

/-- Whether a text is a handle with a name or an empty name between two exclamation marks. -/
def isClosedHandle (handle : List Char) : Bool :=
  2 ≤ handle.length && handle.getLast? == some '!'

/-- A tag written in full between angle brackets. -/
def readVerbatimTag? (input : Input) : Option (Token × Input) := do
  let (suffix, after) ← readTagText? true (input.skip 2)
  if after.startsWith '>' then some (.tag [] suffix, after.skip) else none

/-- A tag that starts with a handle. A handle that is not closed is the start of the suffix of a
local tag, and a single exclamation mark is a tag of its own. -/
def readShortTag? (input : Input) : Option (Token × Input) := do
  let (handle, after) ← readHandle? input
  if isClosedHandle handle then
    let (suffix, after) ← readTagText? false after
    return (.tag handle suffix, after)
  else
    let (suffix, after) ← readTagChars false (after.rest.length + 1) handle.tail.reverse after
    return (if suffix.isEmpty then .tag [] ['!'] else .tag ['!'] suffix, after)

/-- A tag, which a gap or, inside brackets, a comma must follow. -/
def readTag? (inFlow : Bool) (input : Input) : Option (Token × Input) := do
  let (token, after) ← if input.has 1 (· == '<') then readVerbatimTag? input
    else readShortTag? input
  if (inFlow && after.startsWith ',') || after.gapAt 0 then some (token, after) else none

/-- A number of at most nine digits. -/
def readNumber? (input : Input) : Option (Nat × Input) :=
  let (digits, after) := input.readWhile Char.isDigit
  if digits.isEmpty || 9 < digits.length then none
  else some (digits.foldl (fun value digit => value * 10 + (digit.toNat - 48)) 0, after)

/-- The version that a directive names. -/
def readVersion? (input : Input) : Option (Token × Input) := do
  let (major, after) ← readNumber? (input.skipWhile isBlank)
  if after.startsWith '.' then
    let (minor, after) ← readNumber? after.skip
    return (.versionDirective major minor, after)
  else
    none

/-- The handle that a directive declares and what it stands for. -/
def readTagDeclaration? (input : Input) : Option (Token × Input) := do
  let (handle, after) ← readHandle? (input.skipWhile isBlank)
  if (handle == ['!'] || isClosedHandle handle) && after.has 0 isBlank then
    let (leading, after) ← readTagText? true (after.skipWhile isBlank)
    if after.gapAt 0 then some (.tagDirective handle leading, after) else none
  else
    none

/-- A directive after its percent sign, with the end of its line. -/
def readDirective? (input : Input) : Option (Token × Input) := do
  let (name, after) := input.readWhile isNameChar
  if name.isEmpty || !after.gapAt 0 then
    none
  else
    let (token, after) ←
      if name == "YAML".toList then readVersion? after
      else if name == "TAG".toList then readTagDeclaration? after
      else none
    return (token, ← after.skipLineEnd?)

end Symtab.Yaml
