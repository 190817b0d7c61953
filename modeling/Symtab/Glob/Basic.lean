import Symtab.Text.Utf8

/-!
# Glob patterns

The parts of a pattern for paths, and the paths that match it. Matching works on the bytes of a
path: a question mark and a class stand for one byte each, a star for any run of bytes, slashes
included. A double star stands for whole segments, at the start, in the middle or at the end of a
pattern.

Matching keeps track of the places of a path that can be reached by the pattern so far. A set of
places is a list of truth values, one for each place before a byte and one for the end.
-/

set_option autoImplicit false

namespace Symtab.Glob

/-- A range of characters in a class. -/
structure CharRange where
  low : Char
  high : Char
  deriving DecidableEq, Repr

/-- A part of a pattern. -/
inductive Token where
  /-- The character itself. -/
  | literal (char : Char)
  /-- Any byte. -/
  | anyByte
  /-- Any run of bytes. -/
  | anyRun
  /-- Whole segments at the start, none included. -/
  | leadingSegments
  /-- A slash and whatever follows. -/
  | trailingSegments
  /-- A slash, then whole segments, none included. -/
  | innerSegments
  /-- A byte of a class, or of none of its ranges. -/
  | oneOf (negated : Bool) (ranges : List CharRange)
  /-- One of several patterns. -/
  | alternatives (branches : List (List Token))
  deriving Repr

/-- A pattern. -/
abbrev Tokens := List Token

/-- The places of a path that can be reached. -/
abbrev Places := List Bool

namespace Places

/-- Only the start of a path of the given length. -/
def start (length : Nat) : Places :=
  true :: List.replicate length false

/-- The places of either set. -/
def union (a b : Places) : Places :=
  List.zipWith (· || ·) a b

/-- The places after one byte that passes the test. -/
def step (accepts : UInt8 → Bool) (bytes : List UInt8) (places : Places) : Places :=
  false :: List.zipWith (fun reached byte => reached && accepts byte) places bytes

/-- The places at or after a reached one, where `before` tells whether an earlier place was
reached. -/
def onwardsFrom (before : Bool) : Places → Places
  | [] => []
  | reached :: rest => (before || reached) :: onwardsFrom (before || reached) rest

/-- The places at or after a reached one. -/
def onwards (places : Places) : Places :=
  onwardsFrom false places

/-- The places after a slash. -/
def slash (bytes : List UInt8) (places : Places) : Places :=
  step (· == 0x2F) bytes places

/-- The places after the given bytes. -/
def literal (bytes : List UInt8) (written : List UInt8) (places : Places) : Places :=
  written.foldl (fun places byte => step (· == byte) bytes places) places

/-- Whether the end can be reached. -/
def atEnd (places : Places) : Bool :=
  places.getLast?.getD false

end Places

/-- Whether a byte lies in a range. The ends of the range are replaced by their bytes: the range
goes from the last byte of its lower end to the first byte of its upper end, and the remaining bytes
of both ends stand for themselves. -/
def CharRange.accepts (range : CharRange) (byte : UInt8) : Bool :=
  let low := String.utf8EncodeChar range.low
  let high := String.utf8EncodeChar range.high
  if range.low = range.high then
    low.contains byte
  else
    low.dropLast.contains byte || high.tail.contains byte ||
      (low.getLast?.any (· ≤ byte) && high.head?.any (byte ≤ ·))

mutual

/-- Whether a part stands for nothing at all: it is a choice between patterns that stand for
nothing. -/
def Token.isVoid : Token → Bool
  | .alternatives branches => allVoid branches
  | _ => false

/-- Whether all parts of a pattern stand for nothing. -/
def isVoid : Tokens → Bool
  | [] => true
  | token :: rest => token.isVoid && isVoid rest

/-- Whether all of several patterns stand for nothing. -/
def allVoid : List Tokens → Bool
  | [] => true
  | branch :: rest => isVoid branch && allVoid rest

end

mutual

/-- The places after a part, from reached places. -/
def Token.advance (bytes : List UInt8) (places : Places) : Token → Places
  | .literal char => places.literal bytes (String.utf8EncodeChar char)
  | .anyByte => places.step (fun _ => true) bytes
  | .anyRun => places.onwards
  | .leadingSegments => places.union (places.onwards.slash bytes)
  | .trailingSegments => (places.slash bytes).onwards
  | .innerSegments =>
    let after := places.slash bytes
    after.union (after.onwards.slash bytes)
  | .oneOf negated ranges => places.step (fun byte => ranges.any (·.accepts byte) != negated) bytes
  | .alternatives branches => if allVoid branches then places else advanceAny bytes places branches

/-- The places after all parts of a pattern. -/
def advanceAll (bytes : List UInt8) (places : Places) : Tokens → Places
  | [] => places
  | token :: rest => advanceAll bytes (token.advance bytes places) rest

/-- The places after one of several patterns; those that stand for nothing are passed over. -/
def advanceAny (bytes : List UInt8) (places : Places) : List Tokens → Places
  | [] => places.map fun _ => false
  | branch :: rest =>
    let others := advanceAny bytes places rest
    if isVoid branch then others else (advanceAll bytes places branch).union others

end

/-- Whether a part is a given character. -/
def Token.isLiteral (accepts : Char → Bool) : Token → Bool
  | .literal char => accepts char
  | _ => false

/-- Whether a part stands for any run of bytes. -/
def Token.isAnyRun : Token → Bool
  | .anyRun => true
  | _ => false

/-- Whether a part stands for whole segments at the start. -/
def Token.isLeading : Token → Bool
  | .leadingSegments => true
  | _ => false

/-- A pattern without a part at its start that passes the test, and whether it had one. -/
def dropFirst (test : Token → Bool) : Tokens → Bool × Tokens
  | token :: rest => if test token then (true, rest) else (false, token :: rest)
  | [] => (false, [])

/-- Whether a pattern is about the name that a path ends in. Such a pattern ends in a dot that is
not part of a fixed ending of more than that name. -/
def endsInNameDot (tokens : Tokens) : Bool :=
  let (leading, afterLeading) := dropFirst Token.isLeading tokens
  let (run, ending) := dropFirst Token.isAnyRun afterLeading
  tokens.getLast?.any (Token.isLiteral (· == '.')) &&
    if ending.all (Token.isLiteral fun _ => true) then
      if run then ending.length == 1 else leading && ending.all (Token.isLiteral (· != '/'))
    else
      true

/-- The part of a path after its last slash. -/
def lastPart (bytes : List UInt8) : List UInt8 :=
  (bytes.reverse.takeWhile (· != 0x2F)).reverse

/-- Whether a path matches a pattern. The parent directory is no name, so a pattern about the name
that a path ends in does not match a path that ends in two dots. -/
def Tokens.matches (tokens : Tokens) (path : String) : Bool :=
  let bytes := Text.encode path.toList
  if endsInNameDot tokens && lastPart bytes == [0x2E, 0x2E] then
    false
  else
    match tokens with
    | [.leadingSegments] => true
    | _ => (advanceAll bytes (Places.start bytes.length) tokens).atEnd

end Symtab.Glob
