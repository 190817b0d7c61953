import Symtab.Scope
import Symtab.Symbol

/-!
# What a scan knows

The state of a scan between two lines, and what a rule that is tried on a line can add to it. A rule
names declarations, opens bodies and may change the declaration group; it never closes a body and
never takes a symbol back.
-/

set_option autoImplicit false

namespace Symtab

/-- A parenthesised list of declarations that spans several lines. -/
inductive DeclarationGroup where
  | imports
  | constants
  | plainVariables
  deriving DecidableEq, Repr

/-- What a line does to the declaration group in force. -/
inductive GroupChange where
  /-- The group stays as it is. -/
  | keep
  /-- The given group is in force, or none. -/
  | enter (group : Option DeclarationGroup)
  deriving DecidableEq, Repr

/-- The group in force after a change. -/
def GroupChange.after (change : GroupChange) (group : Option DeclarationGroup) :
    Option DeclarationGroup :=
  match change with
  | .keep => group
  | .enter next => next

/-- A declaration read off a line: a symbol before its place and language are filled in. -/
structure Declaration where
  name : String
  kind : Kind
  scope : String
  dataType : Option String := none
  description : Option String := none
  deriving DecidableEq, Repr

namespace Declaration

/-- The declaration of the identifier in a text, if the text holds one. The written type is cleaned
like the name. -/
def of? (scope : String) (kind : Kind) (raw : List Char) (dataType : Option (List Char) := none)
    (description : Option String := none) : Option Declaration :=
  (cleanName? raw).map fun name =>
    { name, kind, scope, dataType := dataType.bind cleanName?, description }

/-- The symbol declared on a line of a program. -/
def toSymbol (declaration : Declaration) (language : Language) (line : Nat) : Symbol where
  name := declaration.name
  kind := declaration.kind
  scope := declaration.scope
  line := line
  dataType := declaration.dataType
  language := language
  description := declaration.description

theorem map_name_toSymbol (declarations : List Declaration) (language : Language) (line : Nat) :
    (declarations.map (·.toSymbol language line)).map (·.name) = declarations.map (·.name) := by
  rw [List.map_map]
  rfl

end Declaration

/-- The scope of a body with the identifier in a text, if the text holds one. -/
def Scope.of? (raw : List Char) (kind : ScopeKind) : Option Scope :=
  (cleanName? raw).map fun name => ⟨name, kind⟩

/-- The scope of a body with the identifier in a text, provided that the line leaves the body
open. -/
def Scope.openedIf (leftOpen : Bool) (raw : List Char) (kind : ScopeKind) : List Scope :=
  if leftOpen then (Scope.of? raw kind).toList else []

/-- What a rule that is tried on a line adds to a scan, and whether it claims the line. Nothing here
ties the two together: what a rule adds stays added when the line goes on to the rules after it. -/
structure Effect where
  /-- The declarations, in order. -/
  declarations : List Declaration := []
  /-- The bodies that are opened, outermost first. -/
  opens : List Scope := []
  /-- The change of the declaration group. -/
  group : GroupChange := .keep
  /-- Whether the rules after this one are kept from the line. -/
  claims : Bool := true
  deriving DecidableEq, Repr

namespace Effect

/-- The effect of a line that is understood and adds nothing. -/
def nothing : Effect := {}

/-- The declarations alone; they claim the line if there is at least one. -/
def ofDeclarations (declarations : List Declaration) : Effect :=
  { declarations, claims := !declarations.isEmpty }

end Effect

/-- What a scan knows between two lines. -/
structure Context where
  /-- The open bodies. -/
  scopes : ScopeStack := ScopeStack.empty
  /-- The symbols found so far, in order, repetitions included. -/
  symbols : List Symbol := []
  /-- The names that have been recorded so far, for symbols of any kind. -/
  names : List String := []
  /-- The declaration group in force. -/
  group : Option DeclarationGroup := none
  deriving DecidableEq, Repr

namespace Context

/-- The state before the first line. -/
def initial : Context := {}

/-- Whether the name has been recorded. -/
def hasName (context : Context) (name : String) : Bool :=
  context.names.contains name

/-- The state after an effect of a line. -/
def apply (context : Context) (language : Language) (line : Nat) (effect : Effect) : Context where
  scopes := effect.opens.foldl ScopeStack.push context.scopes
  symbols := context.symbols ++ effect.declarations.map (·.toSymbol language line)
  names := context.names ++ effect.declarations.map (·.name)
  group := effect.group.after context.group

/-- The state after a line that closes a body. -/
def close (context : Context) : Context :=
  { context with scopes := context.scopes.pop }

end Context

end Symtab
