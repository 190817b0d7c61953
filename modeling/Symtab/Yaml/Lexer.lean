import Symtab.Yaml.Token

/-!
# Tokens of a stream

Cutting a YAML stream into tokens. Indentation opens and closes collections. A text is recognised as
a key only when the colon after it is met, so each text that could be a key is remembered with its
place among the tokens; a key has to stand on one line, to be short, and to be followed by a colon
if it stands where the collection around it expects one.
-/

set_option autoImplicit false

namespace Symtab.Yaml

/-- A place where a key could start. -/
structure KeyStart where
  /-- Whether the text there has to be a key. -/
  required : Bool
  /-- The number of tokens before it. -/
  position : Nat
  index : Nat
  line : Nat
  column : Nat

/-- The number of characters that a key may have. -/
def keyLimit : Nat := 1024

/-- What has been read of a stream. -/
structure Lexer where
  input : Input
  /-- The tokens so far, last first. -/
  tokens : List Token := []
  /-- The column of the innermost collection without brackets, or -1 outside of all of them. -/
  indent : Int := -1
  /-- The columns of the collections around it. -/
  indents : List Int := []
  /-- The place where a key could start, for each level of brackets, innermost first. -/
  keyStarts : List (Option KeyStart) := [none]
  /-- Whether a key can start at the current place. -/
  keyAllowed : Bool := true

namespace Lexer

/-- Whether the current place is inside brackets. -/
def inFlow (lexer : Lexer) : Bool :=
  1 < lexer.keyStarts.length

/-- Adds a token. -/
def push (lexer : Lexer) (token : Token) : Lexer :=
  { lexer with tokens := token :: lexer.tokens }

/-- Adds a token before those that follow the first `position` ones. -/
def insert (lexer : Lexer) (position : Nat) (token : Token) : Lexer :=
  let later := lexer.tokens.length - position
  { lexer with tokens := lexer.tokens.take later ++ token :: lexer.tokens.drop later }

/-- Opens a collection at a column, unless one is open there. -/
def openBlock (lexer : Lexer) (column position : Nat) (token : Token) : Lexer :=
  if lexer.inFlow || (column : Int) ≤ lexer.indent then
    lexer
  else
    { lexer.insert position token with indent := column, indents := lexer.indent :: lexer.indents }

/-- Closes the collections that started right of a column. -/
def closeBlocks (column : Int) : Nat → Lexer → Lexer
  | 0, lexer => lexer
  | fuel + 1, lexer =>
    if lexer.inFlow || lexer.indent ≤ column then
      lexer
    else
      closeBlocks column fuel
        { lexer.push .blockEnd with indent := lexer.indents.head?.getD (-1), indents := lexer.indents.tail }

/-- Closes the collections that started right of a column. -/
def unindent (lexer : Lexer) (column : Int) : Lexer :=
  closeBlocks column (lexer.indents.length + 1) lexer

/-- Gives up a place where a key could start; this fails if there has to be one. -/
def dropStart : Option KeyStart → Option (Option KeyStart)
  | some start => if start.required then none else some none
  | none => some none

/-- Gives up the innermost place where a key could start. -/
def dropKey? (lexer : Lexer) : Option Lexer :=
  match lexer.keyStarts with
  | [] => some lexer
  | start :: outer => (dropStart start).map fun start => { lexer with keyStarts := start :: outer }

/-- Whether a key that starts there could still end at the current place. -/
def isFresh (lexer : Lexer) (start : KeyStart) : Bool :=
  start.line == lexer.input.line && lexer.input.index ≤ start.index + keyLimit

/-- Gives up the places whose keys would be too long. -/
def dropStaleKeys? (lexer : Lexer) : Option Lexer := do
  let keyStarts ← lexer.keyStarts.mapM fun start =>
    match start with
    | some found => if lexer.isFresh found then some (some found) else dropStart (some found)
    | none => some none
  return { lexer with keyStarts }

/-- Remembers the current place as one where a key could start. -/
def saveKey? (lexer : Lexer) : Option Lexer :=
  if lexer.keyAllowed then do
    let cleared ← lexer.dropKey?
    let start : KeyStart :=
      { required := !lexer.inFlow && lexer.indent == (lexer.input.column : Int)
        position := lexer.tokens.length
        index := lexer.input.index
        line := lexer.input.line
        column := lexer.input.column }
    return { cleared with keyStarts := some start :: cleared.keyStarts.tail }
  else
    some lexer

/-- Passes over what stands between tokens: spaces, comments and line ends. A tab is passed over
where no key can start. -/
def skipToToken : Nat → Lexer → Lexer
  | 0, lexer => lexer
  | fuel + 1, lexer =>
    let input := lexer.input
    let input := if input.column = 0 && input.startsWith '\ufeff' then input.skip else input
    let tabs := lexer.inFlow || !lexer.keyAllowed
    let input := (input.skipWhile fun c => c == ' ' || (tabs && c == '\t')).skipComment
    if input.rest.head?.any isBreak then
      skipToToken fuel { lexer with input := input.skipBreak, keyAllowed := lexer.keyAllowed ||
        !lexer.inFlow }
    else
      { lexer with input }

/-- Reads a mark of a given length as a token. -/
def take (lexer : Lexer) (length : Nat) (token : Token) : Lexer :=
  { lexer.push token with input := lexer.input.skip length }

/-- Reads the end of the stream. -/
def readEnd? (lexer : Lexer) : Option Lexer := do
  let closed ← (lexer.unindent (-1)).dropKey?
  return { closed.push .streamEnd with keyAllowed := false }

/-- Reads a directive. -/
def readDirective? (lexer : Lexer) : Option Lexer := do
  let closed ← (lexer.unindent (-1)).dropKey?
  let (token, after) ← Yaml.readDirective? lexer.input.skip
  return { closed.push token with input := after, keyAllowed := false }

/-- Reads a mark of a document. -/
def readDocumentMark? (lexer : Lexer) (token : Token) : Option Lexer := do
  let closed ← (lexer.unindent (-1)).dropKey?
  return { closed.take 3 token with keyAllowed := false }

/-- Reads an opening bracket. -/
def readFlowStart? (lexer : Lexer) (token : Token) : Option Lexer := do
  let saved ← lexer.saveKey?
  return { saved.take 1 token with keyStarts := none :: saved.keyStarts, keyAllowed := true }

/-- Reads a closing bracket. -/
def readFlowEnd? (lexer : Lexer) (token : Token) : Option Lexer := do
  let cleared ← lexer.dropKey?
  let keyStarts := if cleared.inFlow then cleared.keyStarts.tail else cleared.keyStarts
  return { cleared.take 1 token with keyStarts, keyAllowed := false }

/-- Reads a comma. -/
def readFlowEntry? (lexer : Lexer) : Option Lexer := do
  let cleared ← lexer.dropKey?
  return { cleared.take 1 .flowEntry with keyAllowed := true }

/-- Opens a collection at the current place, where a key must be able to start; inside brackets
nothing happens. -/
def openHere? (lexer : Lexer) (token : Token) : Option Lexer :=
  if lexer.inFlow then some lexer
  else if lexer.keyAllowed then some (lexer.openBlock lexer.input.column lexer.tokens.length token)
  else none

/-- Reads the mark of an item. -/
def readBlockEntry? (lexer : Lexer) : Option Lexer := do
  let cleared ← (← lexer.openHere? .blockSequenceStart).dropKey?
  return { cleared.take 1 .blockEntry with keyAllowed := true }

/-- Reads the mark of a key. -/
def readKey? (lexer : Lexer) : Option Lexer := do
  let cleared ← (← lexer.openHere? .blockMappingStart).dropKey?
  return { cleared.take 1 .key with keyAllowed := !lexer.inFlow }

/-- Reads a colon. If a key started before it, the mark of the key is put in there. -/
def readValue? (lexer : Lexer) : Option Lexer :=
  match lexer.keyStarts with
  | some start :: outer =>
    let keyed :=
      (lexer.insert start.position .key).openBlock start.column start.position .blockMappingStart
    some { keyed.take 1 .value with keyStarts := none :: outer, keyAllowed := false }
  | _ => do
    let opened ← lexer.openHere? .blockMappingStart
    return { opened.take 1 .value with keyAllowed := !lexer.inFlow }

/-- Reads an anchor or an alias. -/
def readAnchor? (lexer : Lexer) (token : List Char → Token) : Option Lexer := do
  let saved ← lexer.saveKey?
  let (name, after) ← Yaml.readAnchor? lexer.input.skip
  return { saved.push (token name) with input := after, keyAllowed := false }

/-- Reads a tag. -/
def readTag? (lexer : Lexer) : Option Lexer := do
  let saved ← lexer.saveKey?
  let (token, after) ← Yaml.readTag? lexer.inFlow lexer.input
  return { saved.push token with input := after, keyAllowed := false }

/-- Reads a block text. -/
def readBlockScalar? (lexer : Lexer) (folded : Bool) : Option Lexer := do
  let cleared ← lexer.dropKey?
  let (text, after) ← readBlock? folded lexer.indent lexer.input.skip
  return { cleared.push (.scalar text false) with input := after, keyAllowed := true }

/-- Reads a quoted text. -/
def readQuotedScalar? (lexer : Lexer) (quote : Char) : Option Lexer := do
  let saved ← lexer.saveKey?
  let (text, after) ← readQuoted quote (lexer.input.rest.length + 1) [] lexer.input.skip
  return { saved.push (.scalar text.reverse false) with input := after, keyAllowed := false }

/-- Reads a plain text. -/
def readPlainScalar? (lexer : Lexer) : Option Lexer := do
  let saved ← lexer.saveKey?
  let found ← readPlain lexer.inFlow (lexer.indent + 1) (lexer.input.rest.length + 1) [] {}
    lexer.input
  return { saved.push (.scalar found.text.reverse true) with input := found.after, keyAllowed := found.crossedLine }

/-- Whether a plain text can start with a character, when a gap follows it or not. -/
def startsPlain (lexer : Lexer) (c : Char) : Bool :=
  let followedByBlank := lexer.input.has 1 isBlank
  if c == '-' then !followedByBlank
  else if c == '?' || c == ':' then !lexer.inFlow && !lexer.input.gapAt 1
  else !(isBlank c || isBreak c || isFlowMark c || "#&*!|>'\"%@`".toList.contains c)

/-- Reads a token that starts with a character. -/
def readToken? (lexer : Lexer) (c : Char) : Option Lexer :=
  let input := lexer.input
  if input.column = 0 && c == '%' then lexer.readDirective?
  else if input.atMark '-' then lexer.readDocumentMark? .documentStart
  else if input.atMark '.' then lexer.readDocumentMark? .documentEnd
  else if c == '[' then lexer.readFlowStart? .flowSequenceStart
  else if c == '{' then lexer.readFlowStart? .flowMappingStart
  else if c == ']' then lexer.readFlowEnd? .flowSequenceEnd
  else if c == '}' then lexer.readFlowEnd? .flowMappingEnd
  else if c == ',' then lexer.readFlowEntry?
  else if c == '-' && input.gapAt 1 then lexer.readBlockEntry?
  else if c == '?' && (lexer.inFlow || input.gapAt 1) then lexer.readKey?
  else if c == ':' && (lexer.inFlow || input.gapAt 1) then lexer.readValue?
  else if c == '*' then lexer.readAnchor? .alias
  else if c == '&' then lexer.readAnchor? .anchor
  else if c == '!' then lexer.readTag?
  else if c == '|' && !lexer.inFlow then lexer.readBlockScalar? false
  else if c == '>' && !lexer.inFlow then lexer.readBlockScalar? true
  else if c == '\'' || c == '"' then lexer.readQuotedScalar? c
  else if lexer.startsPlain c then lexer.readPlainScalar?
  else none

/-- Reads all tokens. Each step reads at least one character, so the length of the text is enough
fuel. -/
def run : Nat → Lexer → Option Lexer
  | 0, _ => none
  | fuel + 1, lexer => do
    let fresh ← (skipToToken (lexer.input.rest.length + 1) lexer).dropStaleKeys?
    let ready := fresh.unindent fresh.input.column
    match ready.input.rest with
    | [] => ready.readEnd?
    | c :: _ => run fuel (← ready.readToken? c)

end Lexer

/-- The tokens of a stream, up to the end of the stream. -/
def tokenize? (text : List Char) : Option (List Token) :=
  if text.all isAllowed then
    (Lexer.run (text.length + 1) { input := { rest := text } }).map fun lexer =>
      lexer.tokens.reverse
  else
    none

end Symtab.Yaml
