import Symtab.Language.Basic
import Symtab.Text.Basic

/-!
# Comment lines

Which lines hold nothing but a comment. Only the start of a line is looked at, and a comment that
began on an earlier line is not known here.
-/

set_option autoImplicit false

namespace Symtab

/-- What a comment line starts with. -/
inductive CommentMarker where
  /-- The given text. -/
  | leading (text : String)
  /-- A `#` that does not introduce the definition of a macro. -/
  | directive
  deriving DecidableEq, Repr

namespace CommentMarker

/-- Whether a line that starts with `#` goes on like the definition of a macro. -/
def definesMacro (line : List Char) : Bool :=
  "define".toList.isPrefixOf (line.tail.dropWhile Text.isBlank)

/-- Whether a line starts with the marker. -/
def marks (line : List Char) : CommentMarker → Bool
  | .leading text => text.toList.isPrefixOf line
  | .directive => ['#'].isPrefixOf line && !definesMacro line

end CommentMarker

namespace Language

/-- The markers of comment lines in a language, in the order in which they are tried. -/
def commentMarkers : Language → List CommentMarker
  | .python => [.leading "#"]
  | .c | .cpp => [.leading "//", .leading "/*", .leading "*", .directive]
  | .javascript | .java | .csharp | .go | .rust => [.leading "//", .leading "/*", .leading "*"]

/-- Whether a line holds nothing but a comment. -/
def isComment (language : Language) (line : List Char) : Bool :=
  language.commentMarkers.any (·.marks line)

/-- Whether a trimmed line can declare something: it is neither empty nor a comment. -/
def isSignificant (language : Language) (line : List Char) : Bool :=
  !line.isEmpty && !language.isComment line

end Language

end Symtab
