import Symtab.Text.Printable

/-!
# Quoted texts

The form in which messages show a text: between double quotes, with an escape for every character
that could not be read back from the page. Texts and paths differ in one point only: a path also has
its single quotes escaped.
-/

set_option autoImplicit false

namespace Symtab.Text

/-- A number in lower-case hexadecimal, without leading zeros. -/
def hexadecimal (n : Nat) : List Char :=
  Nat.toDigits 16 n

/-- The escape of a character inside double quotes. -/
def escape (c : Char) : List Char :=
  if c = '"' then ['\\', '"']
  else if c = '\\' then ['\\', '\\']
  else if c = '\t' then ['\\', 't']
  else if c = '\r' then ['\\', 'r']
  else if c = '\n' then ['\\', 'n']
  else if c = '\x00' then ['\\', '0']
  else if isPrintable c then [c]
  else ['\\', 'u', '\x7b'] ++ hexadecimal c.toNat ++ ['\x7d']

/-- The escape of a character of a path. -/
def escapeInPath (c : Char) : List Char :=
  if c = '\'' then ['\\', '\''] else escape c

/-- The quoted form of a text. -/
def quoted (text : String) : String :=
  String.ofList (['"'] ++ text.toList.flatMap escape ++ ['"'])

/-- The quoted form of a path. -/
def quotedPath (path : String) : String :=
  String.ofList (['"'] ++ path.toList.flatMap escapeInPath ++ ['"'])

end Symtab.Text
