import Symtab.Rules.C
import Symtab.Rules.Cpp
import Symtab.Rules.CSharp
import Symtab.Rules.Go
import Symtab.Rules.Java
import Symtab.Rules.JavaScript
import Symtab.Rules.Python
import Symtab.Rules.Rust

/-!
# The rules of each language
-/

set_option autoImplicit false

namespace Symtab

/-- The rules of a language. -/
def Language.rules : Language → RuleTable
  | .javascript => Rules.JavaScript.table
  | .python => Rules.Python.table
  | .java => Rules.Java.table
  | .c => Rules.C.table
  | .cpp => Rules.Cpp.table
  | .csharp => Rules.CSharp.table
  | .go => Rules.Go.table
  | .rust => Rules.Rust.table

end Symtab
