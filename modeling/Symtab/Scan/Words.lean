import Symtab.Text.Alphanumeric
import Symtab.Text.Cut

/-!
# Words of a declaration

Parts of a line that several languages ask about: the head of a declaration, the words in it, and
the words that start a statement and never name a type.
-/

set_option autoImplicit false

namespace Symtab

/-- The words that can lead a statement and never name a type. -/
def statementKeywords : List String :=
  ["return", "new", "delete", "throw", "else", "case", "goto", "break", "continue", "if",
   "while", "for", "foreach", "switch", "catch", "do", "sizeof", "typedef", "package", "import",
   "using", "namespace", "yield", "await", "struct", "enum", "union", "class", "interface"]

/-- Whether a text is one of the given words. -/
def isAmong (words : List String) (text : List Char) : Bool :=
  words.contains (String.ofList text)

/-- Whether a text is a word that can lead a statement and never names a type. -/
def isStatementKeyword (text : List Char) : Bool :=
  isAmong statementKeywords text

/-- Whether a word occurs in a line as a whole word. -/
def hasWord (line : List Char) (word : String) : Bool :=
  (line.splitOnP fun c => !Text.isIdentifierChar c).contains word.toList

/-- The part of a declaration before its initial value. -/
def declarationHead (line : List Char) : List Char :=
  line.takeWhile (· != '=')

/-- The words of a text other than the given ones, joined by single spaces; nothing if none is
left. -/
def wordsWithout? (dropped : List String) (text : List Char) : Option (List Char) :=
  match (Text.words text).filter fun word => !isAmong dropped word with
  | [] => none
  | kept => some ([' '].intercalate kept)

/-- The pieces of a list with commas, each without white space at its ends. -/
def commaSeparated (text : List Char) : List (List Char) :=
  (text.splitOn ',').map Text.trim

end Symtab
