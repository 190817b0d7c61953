import Symtab.Symbol

/-!
# First occurrences

Two symbols with the same name, scope and kind are the same declaration seen twice, and only the
first is kept.
-/

set_option autoImplicit false

namespace Symtab

/-- What identifies a declaration. -/
structure Symbol.Key where
  name : String
  scope : String
  kind : Kind
  deriving DecidableEq, Repr

/-- What identifies the declaration of a symbol. -/
def Symbol.key (symbol : Symbol) : Symbol.Key :=
  ⟨symbol.name, symbol.scope, symbol.kind⟩

/-- The symbols whose declarations have neither been seen before nor occur earlier in the list. -/
def dedupAfter (seen : List Symbol.Key) : List Symbol → List Symbol
  | [] => []
  | symbol :: rest =>
    if seen.contains symbol.key then dedupAfter seen rest
    else symbol :: dedupAfter (symbol.key :: seen) rest

/-- The first symbol of each declaration, in order. -/
def dedup (symbols : List Symbol) : List Symbol :=
  dedupAfter [] symbols

end Symtab
