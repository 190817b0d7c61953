import Symtab.Yaml.Lexer

/-!
# Nodes

The values of a YAML stream: texts, sequences, mappings, and references to values with an anchor. A
stream holds at most one document.

Anchors are numbered: an anchor gets as its number the count of different names before it. A name
that is used again takes a new number, which a later name may then share, and a reference stands for
the last value with the number.
-/

set_option autoImplicit false

namespace Symtab.Yaml

/-- What can be written before a value. -/
structure Properties where
  anchor : Option Nat := none
  tag : Option String := none
  deriving DecidableEq, Repr

/-- A value of a stream. -/
inductive Node where
  | scalar (properties : Properties) (text : String) (plain : Bool)
  | sequence (properties : Properties) (items : List Node)
  | mapping (properties : Properties) (pairs : List (Node × Node))
  | alias (anchor : Nat)
  deriving Repr, Inhabited

/-- The value that stands where none is written. -/
def Node.empty : Node :=
  .scalar {} "" true

/-- The tokens left, and the names known so far. -/
structure Composer where
  tokens : List Token
  /-- The number of each name of an anchor. -/
  anchors : List (List Char × Nat) := []
  /-- What the handles of tags stand for. -/
  handles : List (List Char × List Char) := []

namespace Composer

/-- The handles that need no declaration. -/
def defaultHandles : List (List Char × List Char) :=
  [(['!'], ['!']), (['!', '!'], "tag:yaml.org,2002:".toList)]

/-- Passes over the next token. -/
def skip (composer : Composer) : Composer :=
  { composer with tokens := composer.tokens.tail }

/-- Whether the next token is one of the given ones. -/
def nextIn (composer : Composer) (tokens : List Token) : Bool :=
  composer.tokens.head?.any tokens.contains

/-- Numbers an anchor. -/
def addAnchor (composer : Composer) (name : List Char) : Composer × Nat :=
  let number := composer.anchors.length
  ({ composer with anchors := (name, number) :: composer.anchors.filter (·.1 != name) }, number)

/-- The tag that a handle and a suffix stand for. -/
def resolveTag? (composer : Composer) (handle suffix : List Char) : Option String :=
  if handle.isEmpty then some (String.ofList suffix)
  else (composer.handles.lookup handle).map fun leading => String.ofList (leading ++ suffix)

/-- Reads a tag, if there is one. -/
def readTag? (composer : Composer) : Option (Option String × Composer) :=
  match composer.tokens with
  | .tag handle suffix :: _ =>
    (composer.resolveTag? handle suffix).map fun tag => (some tag, composer.skip)
  | _ => some (none, composer)

/-- Reads an anchor, if there is one. -/
def readAnchor (composer : Composer) : Option Nat × Composer :=
  match composer.tokens with
  | .anchor name :: _ =>
    let (after, number) := composer.skip.addAnchor name
    (some number, after)
  | _ => (none, composer)

/-- Reads the anchor and the tag of a value, in either order. -/
def readProperties? (composer : Composer) : Option (Properties × Composer) := do
  match composer.readAnchor with
  | (some anchor, after) =>
    let (tag, after) ← after.readTag?
    return ({ anchor, tag }, after)
  | (none, _) =>
    let (tag, after) ← composer.readTag?
    let (anchor, after) := if tag.isSome then after.readAnchor else (none, after)
    return ({ anchor, tag }, after)

/-- The properties of a written text; a single exclamation mark says nothing about it. -/
def scalarProperties (properties : Properties) : Properties :=
  if properties.tag == some "!" then { properties with tag := none } else properties

mutual

/-- Reads a value. Collections without brackets can stand there if `block` is set, and a sequence
without indentation if `indentless` is set. The fuel bounds the number of steps. -/
def readNode : Nat → Bool → Bool → Composer → Option (Node × Composer)
  | 0, _, _, _ => none
  | fuel + 1, block, indentless, composer =>
    match composer.tokens with
    | .alias name :: _ =>
      (composer.anchors.lookup name).map fun number => (.alias number, composer.skip)
    | _ =>
      match composer.readProperties? with
      | none => none
      | some (properties, after) =>
        match after.tokens with
        | .scalar text plain :: _ =>
          some (.scalar (scalarProperties properties) (String.ofList text) plain, after.skip)
        | .flowSequenceStart :: _ =>
          (readFlowItems fuel true after.skip).map fun (items, after) =>
            (.sequence properties items, after)
        | .flowMappingStart :: _ =>
          (readFlowPairs fuel true after.skip).map fun (pairs, after) =>
            (.mapping properties pairs, after)
        | token :: _ =>
          if indentless && token = .blockEntry then
            (readIndentlessItems fuel after).map fun (items, after) =>
              (.sequence properties items, after)
          else if block && token = .blockSequenceStart then
            (readBlockItems fuel after.skip).map fun (items, after) =>
              (.sequence properties items, after)
          else if block && token = .blockMappingStart then
            (readBlockPairs fuel after.skip).map fun (pairs, after) =>
              (.mapping properties pairs, after)
          else if properties.anchor.isSome || properties.tag.isSome then
            some (.scalar properties "" true, after)
          else
            none
        | [] => none

/-- Reads a value, or the empty value if one of the given tokens comes next. -/
def readNodeUnless : Nat → List Token → Bool → Bool → Composer → Option (Node × Composer)
  | 0, _, _, _, _ => none
  | fuel + 1, stops, block, indentless, composer =>
    if composer.nextIn stops then some (.empty, composer)
    else readNode fuel block indentless composer

/-- Reads the items of an indented sequence. -/
def readBlockItems : Nat → Composer → Option (List Node × Composer)
  | 0, _ => none
  | fuel + 1, composer =>
    match composer.tokens with
    | .blockEntry :: _ =>
      match readNodeUnless fuel [.blockEntry, .blockEnd] true false composer.skip with
      | none => none
      | some (item, after) =>
        (readBlockItems fuel after).map fun (items, after) => (item :: items, after)
    | .blockEnd :: _ => some ([], composer.skip)
    | _ => none

/-- Reads the items of a sequence that is not indented below its key. -/
def readIndentlessItems : Nat → Composer → Option (List Node × Composer)
  | 0, _ => none
  | fuel + 1, composer =>
    match composer.tokens with
    | .blockEntry :: _ =>
      match readNodeUnless fuel [.blockEntry, .key, .value, .blockEnd] true false composer.skip with
      | none => none
      | some (item, after) =>
        (readIndentlessItems fuel after).map fun (items, after) => (item :: items, after)
    | _ => some ([], composer)

/-- Reads the value of a key in an indented mapping, which may be missing. -/
def readBlockValue : Nat → Composer → Option (Node × Composer)
  | 0, _ => none
  | fuel + 1, composer =>
    match composer.tokens with
    | .value :: _ => readNodeUnless fuel [.key, .value, .blockEnd] true true composer.skip
    | _ => some (.empty, composer)

/-- Reads the pairs of an indented mapping. -/
def readBlockPairs : Nat → Composer → Option (List (Node × Node) × Composer)
  | 0, _ => none
  | fuel + 1, composer =>
    match composer.tokens with
    | .key :: _ =>
      match readNodeUnless fuel [.key, .value, .blockEnd] true true composer.skip with
      | none => none
      | some (key, after) =>
        match readBlockValue fuel after with
        | none => none
        | some (value, after) =>
          (readBlockPairs fuel after).map fun (pairs, after) => ((key, value) :: pairs, after)
    | .blockEnd :: _ => some ([], composer.skip)
    | _ => none

/-- Reads the value of a key inside brackets, which may be missing. -/
def readFlowValue : Nat → Token → Composer → Option (Node × Composer)
  | 0, _, _ => none
  | fuel + 1, closing, composer =>
    match composer.tokens with
    | .value :: _ => readNodeUnless fuel [.flowEntry, closing] false false composer.skip
    | _ => some (.empty, composer)

/-- Reads the key of a pair that is an item of a sequence in brackets. Where the key is missing, the
token in its place is passed over. -/
def readItemKey : Nat → Composer → Option (Node × Composer)
  | 0, _ => none
  | fuel + 1, composer =>
    if composer.nextIn [.value, .flowEntry, .flowSequenceEnd] then some (.empty, composer.skip)
    else readNode fuel false false composer

/-- Reads the items of a sequence in brackets; before each but the first there must be a comma. -/
def readFlowItems : Nat → Bool → Composer → Option (List Node × Composer)
  | 0, _, _ => none
  | fuel + 1, first, composer =>
    if composer.nextIn [.flowSequenceEnd] then
      some ([], composer.skip)
    else if !first && !composer.nextIn [.flowEntry] then
      none
    else
      let start := if first then composer else composer.skip
      match start.tokens with
      | .flowSequenceEnd :: _ => some ([], start.skip)
      | .key :: _ =>
        match readItemKey fuel start.skip with
        | none => none
        | some (key, after) =>
          match readFlowValue fuel .flowSequenceEnd after with
          | none => none
          | some (value, after) =>
            (readFlowItems fuel false after).map fun (items, after) =>
              (.mapping {} [(key, value)] :: items, after)
      | _ =>
        match readNode fuel false false start with
        | none => none
        | some (item, after) =>
          (readFlowItems fuel false after).map fun (items, after) => (item :: items, after)

/-- Reads the pairs of a mapping in braces; before each but the first there must be a comma. -/
def readFlowPairs : Nat → Bool → Composer → Option (List (Node × Node) × Composer)
  | 0, _, _ => none
  | fuel + 1, first, composer =>
    if composer.nextIn [.flowMappingEnd] then
      some ([], composer.skip)
    else if !first && !composer.nextIn [.flowEntry] then
      none
    else
      let start := if first then composer else composer.skip
      match start.tokens with
      | .flowMappingEnd :: _ => some ([], start.skip)
      | .key :: _ =>
        match readNodeUnless fuel [.value, .flowEntry, .flowMappingEnd] false false start.skip with
        | none => none
        | some (key, after) =>
          match readFlowValue fuel .flowMappingEnd after with
          | none => none
          | some (value, after) =>
            (readFlowPairs fuel false after).map fun (pairs, after) =>
              ((key, value) :: pairs, after)
      | _ =>
        match readNode fuel false false start with
        | none => none
        | some (key, after) =>
          (readFlowPairs fuel false after).map fun (pairs, after) => ((key, .empty) :: pairs, after)

end

/-- Reads the directives before a document. The version is named at most once and must be 1.1 or
1.2, and a handle is declared at most once. -/
def readDirectives :
    Bool → List (List Char × List Char) → List Token →
    Option (List (List Char × List Char) × List Token)
  | versioned, handles, .versionDirective major minor :: rest =>
    if versioned || major != 1 || !(minor == 1 || minor == 2) then none
    else readDirectives true handles rest
  | versioned, handles, .tagDirective handle leading :: rest =>
    if (handles.lookup handle).isSome then none
    else readDirectives versioned ((handle, leading) :: handles) rest
  | _, handles, tokens => some (handles, tokens)

/-- Reads the value of a document, which may be empty after its start mark. -/
def readDocument? (tokens : List Token) : Option (Node × Composer) := do
  let fuel := 4 * tokens.length + 4
  let (handles, rest) ← readDirectives false [] tokens
  let composer : Composer := { tokens := rest, handles := handles ++ defaultHandles }
  match rest with
  | .documentStart :: after =>
    let started := { composer with tokens := after }
    match after with
    | .versionDirective .. :: _ | .tagDirective .. :: _ | .documentStart :: _ | .documentEnd ::
      _ | .streamEnd :: _ =>
      return (.empty, started)
    | _ => readNode fuel true false started
  | _ => if rest.length = tokens.length then readNode fuel true false composer else none

end Composer

/-- The value of a stream: the empty value if it holds no document. A stream with several documents
has no value. -/
def Node.ofTokens? (tokens : List Token) : Option Node := do
  if tokens = [.streamEnd] then
    return .empty
  else
    let (node, after) ← Composer.readDocument? tokens
    if after.tokens.dropWhile (· = .documentEnd) = [.streamEnd] then some node else none

/-- The value that a text denotes, if it is a YAML stream with at most one document. -/
def Node.parse? (text : String) : Option Node :=
  (tokenize? text.toList).bind Node.ofTokens?

namespace Node

mutual

/-- The values with an anchor, in the order in which they start. -/
def anchored : Node → List (Nat × Node)
  | .scalar properties text plain =>
    (properties.anchor.map fun number => (number, .scalar properties text plain)).toList
  | .sequence properties items =>
    (properties.anchor.map fun number => (number, Node.sequence properties items)).toList ++
      anchoredItems items
  | .mapping properties pairs =>
    (properties.anchor.map fun number => (number, Node.mapping properties pairs)).toList ++
      anchoredPairs pairs
  | .alias _ => []

/-- The values with an anchor among the items of a sequence. -/
def anchoredItems : List Node → List (Nat × Node)
  | [] => []
  | item :: rest => anchored item ++ anchoredItems rest

/-- The values with an anchor among the pairs of a mapping. -/
def anchoredPairs : List (Node × Node) → List (Nat × Node)
  | [] => []
  | (key, value) :: rest => anchored key ++ anchored value ++ anchoredPairs rest

end

end Node

end Symtab.Yaml
