/-!
# Scopes

The bodies that are open at a line, innermost first, over a floor named `global` that is never
closed.
-/

set_option autoImplicit false

namespace Symtab

/-- The name of the scope outside every body. -/
def globalScope : String := "global"

/-- The name of the scope that calls of built-in functions are reported under. -/
def builtinScope : String := "builtins"

/-- The kind of construct that a scope belongs to. -/
inductive ScopeKind where
  | root
  | classType
  | function
  | module
  /-- A body that adds methods to a type declared elsewhere, or declares them for types to come. -/
  | implementation
  deriving DecidableEq, Repr

/-- A named body. -/
structure Scope where
  name : String
  kind : ScopeKind
  deriving DecidableEq, Repr

/-- The floor under all open bodies. -/
def Scope.root : Scope := ⟨globalScope, .root⟩

/-- The open bodies, innermost first. The floor is not listed, so it cannot be closed. -/
structure ScopeStack where
  opened : List Scope := []
  deriving DecidableEq, Repr

namespace ScopeStack

/-- The stack with no body open. -/
def empty : ScopeStack := {}

/-- Opens a body inside the innermost one. -/
def push (stack : ScopeStack) (scope : Scope) : ScopeStack :=
  ⟨scope :: stack.opened⟩

/-- Closes the innermost body; without an open body nothing happens. -/
def pop (stack : ScopeStack) : ScopeStack :=
  ⟨stack.opened.tail⟩

/-- The innermost body, or the floor. -/
def innermost (stack : ScopeStack) : Scope :=
  stack.opened.head?.getD Scope.root

/-- The name of the innermost body. -/
def current (stack : ScopeStack) : String :=
  stack.innermost.name

/-- The kind of the innermost body. -/
def currentKind (stack : ScopeStack) : ScopeKind :=
  stack.innermost.kind

/-- Whether no body is open. -/
def isRoot (stack : ScopeStack) : Bool :=
  stack.opened.isEmpty

/-- The floor and the open bodies, outermost first. -/
def entries (stack : ScopeStack) : List Scope :=
  Scope.root :: stack.opened.reverse

/-- The names of the floor and the open bodies, outermost first. -/
def names (stack : ScopeStack) : List String :=
  stack.entries.map (·.name)

/-- The number of open bodies, the floor included. -/
def depth (stack : ScopeStack) : Nat :=
  stack.opened.length + 1

/-- The name of the innermost body of a kind. -/
def nearest? (stack : ScopeStack) (kind : ScopeKind) : Option String :=
  ((stack.opened ++ [Scope.root]).find? fun scope => scope.kind = kind).map (·.name)

/-- The innermost enclosing class, or the innermost body if there is no class. -/
def owner (stack : ScopeStack) : String :=
  (stack.nearest? .classType).getD stack.current

theorem pop_push (stack : ScopeStack) (scope : Scope) : (stack.push scope).pop = stack := rfl

theorem entries_push (stack : ScopeStack) (scope : Scope) :
    (stack.push scope).entries = stack.entries ++ [scope] := by
  simp [entries, push]

end ScopeStack

end Symtab
