import Symtab.Json.Basic

/-!
# Writing JSON

Two layouts of a JSON value: on one line without blanks, and with every item and field on a line of
its own, indented by two spaces for each level. Quotes, backslashes and control characters are
escaped and nothing else is.
-/

set_option autoImplicit false

namespace Symtab.Json

/-- The digit of a number below sixteen. -/
def hexDigit (n : Nat) : Char :=
  Nat.digitChar n

/-- The written form of a character inside a string. -/
def escape (c : Char) : List Char :=
  if c = '"' then ['\\', '"']
  else if c = '\\' then ['\\', '\\']
  else if c = '\x08' then ['\\', 'b']
  else if c = '\t' then ['\\', 't']
  else if c = '\n' then ['\\', 'n']
  else if c = '\x0c' then ['\\', 'f']
  else if c = '\r' then ['\\', 'r']
  else if c.toNat < 0x20 then
    ['\\', 'u', '0', '0', hexDigit (c.toNat / 16), hexDigit (c.toNat % 16)]
  else [c]

/-- The written form of a text. -/
def printText (text : String) : List Char :=
  '"' :: (text.toList.flatMap escape ++ ['"'])

/-- The written form of a whole number. -/
def printInt (value : Int) : List Char :=
  match value with
  | .ofNat n => Nat.toDigits 10 n
  | .negSucc n => '-' :: Nat.toDigits 10 (n + 1)

mutual

/-- A value on one line without blanks. -/
def printCompact : Json → List Char
  | .null => "null".toList
  | .bool value => if value then "true".toList else "false".toList
  | .int value => printInt value
  | .decimal written => written.toList
  | .string text => printText text
  | .array items => '[' :: (printCompactItems items ++ [']'])
  | .object fields => '{' :: (printCompactFields fields ++ ['}'])

/-- The items of an array with commas between them. -/
def printCompactItems : List Json → List Char
  | [] => []
  | [item] => printCompact item
  | item :: rest => printCompact item ++ ',' :: printCompactItems rest

/-- The fields of an object with commas between them. -/
def printCompactFields : List (String × Json) → List Char
  | [] => []
  | [(name, value)] => printText name ++ ':' :: printCompact value
  | (name, value) :: rest =>
    printText name ++ ':' :: (printCompact value ++ ',' :: printCompactFields rest)

end

/-- A line feed and the indentation of a level. -/
def newLine (level : Nat) : List Char :=
  '\n' :: List.replicate (2 * level) ' '

mutual

/-- A value at a level of indentation, with each item and field on a line of its own. -/
def printIndented (level : Nat) : Json → List Char
  | .null => "null".toList
  | .bool value => if value then "true".toList else "false".toList
  | .int value => printInt value
  | .decimal written => written.toList
  | .string text => printText text
  | .array items =>
    if items.isEmpty then ['[', ']']
    else '[' :: (printIndentedItems (level + 1) items ++ newLine level ++ [']'])
  | .object fields =>
    if fields.isEmpty then ['{', '}']
    else '{' :: (printIndentedFields (level + 1) fields ++ newLine level ++ ['}'])

/-- The items of an array, each on a line of its own. -/
def printIndentedItems (level : Nat) : List Json → List Char
  | [] => []
  | [item] => newLine level ++ printIndented level item
  | item :: rest =>
    newLine level ++ printIndented level item ++ ',' :: printIndentedItems level rest

/-- The fields of an object, each on a line of its own. -/
def printIndentedFields (level : Nat) : List (String × Json) → List Char
  | [] => []
  | [(name, value)] => newLine level ++ printText name ++ ':' :: ' ' :: printIndented level value
  | (name, value) :: rest =>
    newLine level ++ printText name ++ ':' :: ' ' :: (printIndented level value ++
      ',' :: printIndentedFields level rest)

end

/-- The text of a value on one line. -/
def compact (value : Json) : String :=
  String.ofList value.printCompact

/-- The text of a value with each item and field on a line of its own. -/
def indented (value : Json) : String :=
  String.ofList (value.printIndented 0)

end Symtab.Json
