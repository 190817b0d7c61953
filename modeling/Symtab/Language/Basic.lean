import Symtab.Text.Basic
import Symtab.Text.Lower
import Symtab.Text.Quoted

/-!
# Languages

The eight languages whose declarations can be read, with their identifiers, names, file extensions
and the words that introduce declarations.
-/

set_option autoImplicit false

namespace Symtab

/-- A language whose declarations can be read. -/
inductive Language where
  | javascript
  | python
  | java
  | c
  | cpp
  | csharp
  | go
  | rust
  deriving DecidableEq, Repr

/-- No language goes by the given name. -/
structure UnsupportedLanguage where
  name : String
  deriving DecidableEq, Repr

/-- The message about a name that no language goes by. -/
def UnsupportedLanguage.message (error : UnsupportedLanguage) : String :=
  "unsupported language: " ++ Text.quoted error.name

namespace Language

/-- All languages, in display order. -/
def all : List Language :=
  [.javascript, .python, .java, .c, .cpp, .csharp, .go, .rust]

/-- The identifier of a language. -/
def id : Language → String
  | .javascript => "javascript"
  | .python => "python"
  | .java => "java"
  | .c => "c"
  | .cpp => "cpp"
  | .csharp => "csharp"
  | .go => "go"
  | .rust => "rust"

/-- The name of a language for readers. -/
def displayName : Language → String
  | .javascript => "JavaScript"
  | .python => "Python"
  | .java => "Java"
  | .c => "C"
  | .cpp => "C++"
  | .csharp => "C#"
  | .go => "Go"
  | .rust => "Rust"

/-- The usual file extension of a language, with its dot. -/
def extension : Language → String
  | .javascript => ".js"
  | .python => ".py"
  | .java => ".java"
  | .c => ".c"
  | .cpp => ".cpp"
  | .csharp => ".cs"
  | .go => ".go"
  | .rust => ".rs"

/-- The file extensions by which a language is recognised, without their dots. -/
def knownExtensions : Language → List String
  | .javascript => ["js", "mjs", "cjs", "jsx"]
  | .python => ["py", "pyi"]
  | .java => ["java"]
  | .c => ["c"]
  | .cpp => ["cpp", "cc", "cxx", "h", "hpp", "hh", "hxx"]
  | .csharp => ["cs"]
  | .go => ["go"]
  | .rust => ["rs"]

/-- The words that introduce declarations in a language. -/
def keywords : Language → List String
  | .javascript => ["let", "const", "var", "function", "class", "import", "export"]
  | .python => ["def", "class", "import", "from", "global", "nonlocal"]
  | .java => ["public", "private", "protected", "static", "final", "class", "import", "package"]
  | .c => ["#include", "#define", "int", "double", "float", "char", "void", "struct", "typedef"]
  | .cpp =>
    ["#include", "class", "public", "private", "protected", "namespace", "using", "template"]
  | .csharp => ["using", "namespace", "class", "public", "private", "protected", "static", "const"]
  | .go => ["package", "import", "func", "var", "const", "type", "struct", "interface"]
  | .rust => ["use", "fn", "let", "mut", "const", "static", "struct", "impl", "trait", "enum"]

/-- The language with exactly this identifier. -/
def ofExactId? (written : String) : Option Language :=
  all.find? fun language => language.id == written

/-- The language whose identifier is the given text, which may be padded and in any letter case. -/
def ofId (written : String) : Except UnsupportedLanguage Language :=
  match ofExactId? (String.ofList (Text.lower (Text.trim written.toList))) with
  | some language => .ok language
  | none => .error ⟨written⟩

/-- The language recognised by a file extension, which may have leading dots and be in any letter
case. -/
def ofExtension (written : String) : Except UnsupportedLanguage Language :=
  let bare := String.ofList (Text.lower (written.toList.dropWhile (· == '.')))
  match all.find? fun language => language.knownExtensions.contains bare with
  | some language => .ok language
  | none => .error ⟨"." ++ bare⟩

theorem ofExactId?_id (language : Language) : ofExactId? language.id = some language := by
  cases language <;> decide

end Language

end Symtab
