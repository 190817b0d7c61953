import Symtab.Pattern.Basic

/-!
# Matching patterns

A pattern is matched at a place of a line by trying its readings in order of preference: a choice
tries its first piece first, a repetition tries to go on before it stops, and a run of characters is
tried from its longest or its shortest extent. The first reading after which the rest of the pattern
can be read decides. Over a whole line the earliest place with a match wins.
-/

set_option autoImplicit false

namespace Symtab

/-- A place in a line: the characters before it, nearest first, and those after it. -/
structure Cursor where
  before : List Char
  after : List Char
  deriving DecidableEq, Repr

namespace Cursor

/-- The place at the start of a line. -/
def start (line : List Char) : Cursor :=
  ⟨[], line⟩

/-- The place after the given text, if that is what comes next. -/
def skip? (text : List Char) (place : Cursor) : Option Cursor :=
  if text.isPrefixOf place.after then
    some ⟨text.reverse ++ place.before, place.after.drop text.length⟩
  else
    none

/-- The places reached by reading characters of a class, farthest first, followed by the places in
`nearer`. -/
def reachOver (inClass : Char → Bool) (nearer : List Cursor) : List Char → List Char → List Cursor
  | before, [] => ⟨before, []⟩ :: nearer
  | before, c :: rest =>
    if inClass c then reachOver inClass (⟨before, c :: rest⟩ :: nearer) (c :: before) rest
    else ⟨before, c :: rest⟩ :: nearer

/-- The places reached by reading characters of a class, farthest first. -/
def reach (inClass : Char → Bool) (place : Cursor) : List Cursor :=
  reachOver inClass [] place.before place.after

/-- Whether exactly one of the two characters around a place is a word character. -/
def atWordEdge (place : Cursor) : Bool :=
  place.before.head?.any Text.isWord != place.after.head?.any Text.isWord

/-- The text between a place and a later one. -/
def textUpTo (place later : Cursor) : List Char :=
  place.after.take (place.after.length - later.after.length)

end Cursor

/-- The texts that a match has kept, latest first. -/
abbrev Captures := List (Slot × List Char)

/-- The text kept under a slot, if there is one. -/
def Captures.text? (captures : Captures) (slot : Slot) : Option (List Char) :=
  captures.lookup slot

/-- Whether a text was kept under a slot. -/
def Captures.has (captures : Captures) (slot : Slot) : Bool :=
  (captures.text? slot).isSome

/-- What is still to be read after a piece: it is given a place and the texts kept so far. -/
abbrev Continuation (α : Type) := Cursor → Captures → Option α

namespace Pattern

/-- Reads a piece again and again, at most once for each entry of `limit`, and goes on with `next`
after as many readings as possible. -/
def iterate {α : Type} (read : Cursor → Captures → Continuation α → Option α) :
    List Char → Cursor → Captures → Continuation α → Option α
  | [], place, captures, next => next place captures
  | _ :: limit, place, captures, next =>
    (read place captures fun later kept => iterate read limit later kept next).orElse fun _ =>
      next place captures

/-- Reads a pattern from a place and goes on with `next`; gives the result of the first reading that
`next` accepts. -/
def read {α : Type} : Pattern → Cursor → Captures → Continuation α → Option α
  | .empty, place, captures, next => next place captures
  | .literal text, place, captures, next =>
    match place.skip? text with
    | some later => next later captures
    | none => none
  | .one inClass, place, captures, next =>
    match place.after with
    | [] => none
    | c :: rest => if inClass c then next ⟨c :: place.before, rest⟩ captures else none
  | .many inClass, place, captures, next =>
    (place.reach inClass).findSome? fun later => next later captures
  | .few inClass, place, captures, next =>
    (place.reach inClass).reverse.findSome? fun later => next later captures
  | .sequence first second, place, captures, next =>
    first.read place captures fun later kept => second.read later kept next
  | .choice first second, place, captures, next =>
    (first.read place captures next).orElse fun _ => second.read place captures next
  | .repeated piece, place, captures, next =>
    iterate (fun place captures next => piece.read place captures next) place.after place
      captures next
  | .capture slot piece, place, captures, next =>
    piece.read place captures fun later kept => next later ((slot, place.textUpTo later) :: kept)
  | .lineStart, place, captures, next => if place.before.isEmpty then next place captures else none
  | .lineEnd, place, captures, next => if place.after.isEmpty then next place captures else none
  | .wordEdge, place, captures, next => if place.atWordEdge then next place captures else none

/-- A part of a line that has the shape of a pattern, with the texts kept on the way. -/
structure Match where
  start : Cursor
  stop : Cursor
  captures : Captures
  deriving DecidableEq, Repr

/-- The preferred match at a place. -/
def matchAt? (pattern : Pattern) (place : Cursor) : Option Match :=
  pattern.read place [] fun stop captures => some ⟨place, stop, captures⟩

/-- The preferred match at the earliest place that has one. -/
def findFrom? (pattern : Pattern) : List Char → List Char → Option Match
  | before, [] => pattern.matchAt? ⟨before, []⟩
  | before, c :: rest =>
    (pattern.matchAt? ⟨before, c :: rest⟩).orElse fun _ => pattern.findFrom? (c :: before) rest

/-- The preferred match in a line. -/
def find? (pattern : Pattern) (line : List Char) : Option Match :=
  pattern.findFrom? [] line

/-- Where the search for a further match goes on: after the match, and at least one character on. -/
def Match.resume? (found : Match) : Option Cursor :=
  if found.stop.after.length < found.start.after.length then some found.stop
  else
    match found.stop.after with
    | [] => none
    | c :: rest => some ⟨c :: found.stop.before, rest⟩

/-- At most `limit` matches from a place on, each search going on where the last match ended. -/
def findAllFrom (pattern : Pattern) : Nat → Cursor → List Match
  | 0, _ => []
  | limit + 1, place =>
    match pattern.findFrom? place.before place.after with
    | none => []
    | some found =>
      match found.resume? with
      | none => [found]
      | some later => found :: pattern.findAllFrom limit later

/-- The matches in a line that do not overlap, from left to right. -/
def findAll (pattern : Pattern) (line : List Char) : List Match :=
  pattern.findAllFrom (line.length + 1) (Cursor.start line)

end Pattern

end Symtab
