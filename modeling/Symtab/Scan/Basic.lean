import Symtab.Comment
import Symtab.Dedup
import Symtab.Rules
import Symtab.Text.Basic

/-!
# Scanning a program

A program is read line by line. Blank lines and comment lines are passed over, every other line is
read by the rules of the language, and a line that is exactly a closing brace closes the innermost
body. Of the symbols found, the first of each declaration is reported.
-/

set_option autoImplicit false

namespace Symtab

/-- A trimmed line of a program with its number, counted from one. -/
structure Line where
  number : Nat
  text : List Char
  deriving DecidableEq, Repr

/-- The trimmed lines of a program, numbered from one. -/
def numberedLines (source : List Char) : List Line :=
  (Text.lines source).zipIdx 1 |>.map fun (text, number) => ⟨number, Text.trim text⟩

/-- The lines of a program that can declare something. -/
def significantLines (language : Language) (source : List Char) : List Line :=
  (numberedLines source).filter fun line => language.isSignificant line.text

namespace Context

/-- The state after a significant line. -/
def step (language : Language) (context : Context) (line : Line) : Context :=
  let read := context.read language.rules language line.number line.text
  if line.text = ['}'] then read.close else read

/-- The state after the given significant lines. -/
def run (language : Language) (lines : List Line) : Context :=
  lines.foldl (step language) initial

end Context

/-- The symbols declared in a program. -/
def scan (language : Language) (source : String) : List Symbol :=
  dedup (Context.run language (significantLines language source.toList)).symbols

/-- The symbols declared in a program whose language is given by its identifier. -/
def scanById (languageId : String) (source : String) : Except UnsupportedLanguage (List Symbol) :=
  (Language.ofId languageId).map fun language => scan language source

end Symtab
