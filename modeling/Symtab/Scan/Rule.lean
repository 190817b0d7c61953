import Symtab.Pattern.Match
import Symtab.Scan.Context

/-!
# Rules

A rule says which lines it is about, by a pattern, and what such a line adds to a scan. A language
has an ordered cascade of rules, of which the first that claims a line decides, and checks that look
at every line besides.
-/

set_option autoImplicit false

namespace Symtab

/-- A rule about lines. -/
structure Rule where
  /-- The shape of the lines it is about. -/
  pattern : Pattern
  /-- What the rule does with a matching line, given the texts kept by the match, the line and the
  state before it; nothing if it turns the line down at once. -/
  effect? : Captures → List Char → Context → Option Effect

/-- The rules of a language. -/
structure RuleTable where
  /-- The rules of which the first that claims a line decides. -/
  cascade : List Rule
  /-- The rules that are tried on every match in a line. -/
  checks : List Rule := []

namespace Rule

/-- The state after the rule was tried on a match in a line, and whether it claims the line. -/
def tryMatch (rule : Rule) (language : Language) (number : Nat) (line : List Char)
    (context : Context) (found : Pattern.Match) : Context × Bool :=
  match rule.effect? found.captures line context with
  | some effect => (context.apply language number effect, effect.claims)
  | none => (context, false)

/-- The state after the rule was tried on the preferred match in a line, and whether it claims the
line. -/
def tryLine (rule : Rule) (language : Language) (number : Nat) (line : List Char)
    (context : Context) : Context × Bool :=
  match rule.pattern.find? line with
  | some found => rule.tryMatch language number line context found
  | none => (context, false)

end Rule

namespace Context

/-- The state after rules were tried on a line one after the other, each in the state that the last
one left, up to the first that claims the line. -/
def cascaded (language : Language) (number : Nat) (line : List Char) : List Rule → Context → Context
  | [], context => context
  | rule :: rest, context =>
    match rule.tryLine language number line context with
    | (next, true) => next
    | (next, false) => cascaded language number line rest next

/-- The state after a check was tried on each of the given matches in turn. -/
def checked (context : Context) (language : Language) (number : Nat) (line : List Char)
    (rule : Rule) (found : List Pattern.Match) : Context :=
  found.foldl (fun context found => (rule.tryMatch language number line context found).1) context

/-- The state after the cascade and the checks of a table have read a line. -/
def read (context : Context) (table : RuleTable) (language : Language) (number : Nat)
    (line : List Char) : Context :=
  table.checks.foldl
    (fun context rule => context.checked language number line rule (rule.pattern.findAll line))
    (context.cascaded language number line table.cascade)

end Context

/-- Whether more bodies are opened than closed on a line. -/
def opensBlock (line : List Char) : Bool :=
  line.count '}' < line.count '{'

/-- Whether a line ends with a character. -/
def endsIn (line : List Char) (c : Char) : Bool :=
  line.getLast? == some c

/-- Whether a declaration leaves its body open: more bodies are opened than closed, or the line has
no body and no semicolon at its end, so that the body is to follow. -/
def opensScope (line : List Char) : Bool :=
  opensBlock line || !(line.contains '{' || endsIn line ';')

end Symtab
