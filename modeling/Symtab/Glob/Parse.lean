import Symtab.Glob.Basic

/-!
# Reading glob patterns

The parts of a written pattern, or the reason why it is no pattern. Groups of alternatives are
written in braces and may be nested; a comma outside a group stands for itself, as does every
character after a backslash.
-/

set_option autoImplicit false

namespace Symtab.Glob

/-- Why a text is no pattern. -/
inductive ParseError where
  | unclosedClass
  | invalidRange (low high : Char)
  | unopenedAlternatives
  | unclosedAlternatives
  | danglingEscape
  deriving DecidableEq, Repr

/-- The wording of an error. -/
def ParseError.message : ParseError → String
  | .unclosedClass => "unclosed character class; missing ']'"
  | .invalidRange low high =>
    "invalid range; '" ++ String.singleton low ++ "' > '" ++ String.singleton high ++ "'"
  | .unopenedAlternatives =>
    "unopened alternate group; missing '\x7b' (maybe escape '\x7d' with '[\x7d]'?)"
  | .unclosedAlternatives =>
    "unclosed alternate group; missing '\x7d' (maybe escape '\x7b' with '[\x7b]'?)"
  | .danglingEscape => "dangling '\\'"

/-- The ranges of a class whose text is read up to `ranges`, last first. After a dash, the next
character ends the last range; a dash at the end stands for itself. -/
def readRanges (ranges : List CharRange) (afterDash : Bool) :
    List Char → Except ParseError (List CharRange)
  | [] => .ok (if afterDash then (⟨'-', '-'⟩ :: ranges).reverse else ranges.reverse)
  | c :: rest =>
    match afterDash, ranges with
    | true, range :: earlier =>
      if c < range.low then .error (.invalidRange range.low c)
      else readRanges (⟨range.low, c⟩ :: earlier) false rest
    | _, _ =>
      if c = '-' then readRanges ranges true rest else readRanges (⟨c, c⟩ :: ranges) false rest

/-- Whether a class is negated, and its text from there on. -/
def splitNegation : List Char → Bool × List Char
  | '!' :: rest => (true, rest)
  | '^' :: rest => (true, rest)
  | text => (false, text)

/-- A class after its opening bracket, and the text after its closing bracket. The first character
stands for itself, even where it is a bracket or a dash. -/
def readClass (text : List Char) : Except ParseError (Token × List Char) :=
  match splitNegation text with
  | (_, []) => .error .unclosedClass
  | (negated, first :: rest) => do
    let ranges ← readRanges [⟨first, first⟩] false (rest.takeWhile (· != ']'))
    match rest.dropWhile (· != ']') with
    | _ :: after => return (.oneOf negated ranges, after)
    | [] => throw .unclosedClass

/-- A group of alternatives that has not been closed: the pattern before it and its branches but the
last, last first. -/
structure OpenGroup where
  /-- The parts before the group, last first. -/
  outer : Tokens
  /-- The finished branches, last first. -/
  branches : List Tokens

/-- What has been read of a pattern. -/
structure Reading where
  /-- The parts of the current branch, last first. -/
  tokens : Tokens := []
  /-- The groups around it, innermost first. -/
  groups : List OpenGroup := []
  /-- The character read last. -/
  previous : Option Char := none

namespace Reading

/-- Reads a part that ends with the given character. -/
def push (reading : Reading) (token : Token) (last : Char) : Reading :=
  { reading with tokens := token :: reading.tokens, previous := some last }

/-- Reads two stars that do not stand for whole segments. -/
def pushStars (reading : Reading) : Reading :=
  { reading with tokens := .anyRun :: .anyRun :: reading.tokens, previous := some '*' }

/-- Reads an opening brace. -/
def openGroup (reading : Reading) : Reading :=
  { tokens := [], groups := ⟨reading.tokens, []⟩ :: reading.groups, previous := some '{' }

/-- Reads a comma, which starts another branch of a group. -/
def comma (reading : Reading) : Reading :=
  match reading.groups with
  | [] => reading.push (.literal ',') ','
  | group :: outer =>
    { tokens := []
      groups := { group with branches := reading.tokens.reverse :: group.branches } :: outer
      previous := some ',' }

/-- Reads a closing brace. -/
def closeGroup (reading : Reading) : Except ParseError Reading :=
  match reading.groups with
  | [] => .error .unopenedAlternatives
  | group :: outer =>
    let branches := (reading.tokens.reverse :: group.branches).reverse
    .ok { tokens := .alternatives branches :: group.outer, groups := outer, previous := some '}' }

/-- Whether a double star here can stand for whole segments: it follows a slash or, in a group, what
separates branches. -/
def atSegmentStart (reading : Reading) : Bool :=
  match reading.previous with
  | some '/' => true
  | some c => !reading.groups.isEmpty && (c == ',' || c == '{')
  | none => false

/-- Replaces the slash before a double star by a part for whole segments. Parts for whole segments
that are there already stay. -/
def pushSegments (reading : Reading) (segments : Token) (last : Char) : Reading :=
  match reading.tokens with
  | .leadingSegments :: _ | .trailingSegments :: _ => { reading with previous := some last }
  | _ :: earlier => { reading with tokens := segments :: earlier, previous := some last }
  | [] => reading.push segments last

/-- Whether a text ends, or a branch of a group ends there. -/
def endsBranch (reading : Reading) : List Char → Bool
  | [] => true
  | c :: _ => !reading.groups.isEmpty && (c == ',' || c == '}')

/-- Reads a double star that is followed by the given text, and gives the text left. A slash after
it may belong to it. -/
def doubleStar (reading : Reading) (text : List Char) : Reading × List Char :=
  if reading.tokens.isEmpty then
    match text with
    | [] => (reading.push .leadingSegments '*', [])
    | '/' :: rest => (reading.push .leadingSegments '/', rest)
    | _ => (reading.pushStars, text)
  else if !reading.atSegmentStart then
    (reading.pushStars, text)
  else if reading.endsBranch text then
    (reading.pushSegments .trailingSegments '*', text)
  else
    match text with
    | '/' :: rest => (reading.pushSegments .innerSegments '/', rest)
    | _ => (reading.pushStars, text)

end Reading

theorem length_splitNegation_le (text : List Char) :
    (splitNegation text).2.length ≤ text.length := by
  unfold splitNegation
  split <;> simp

theorem length_readClass_le {text after : List Char} {token : Token}
    (read : readClass text = .ok (token, after)) :
    after.length ≤ text.length := by
  have short := length_splitNegation_le text
  unfold readClass at read
  split at read
  · simp at read
  · rename_i negated first rest split
    rw [split] at short
    cases ranges : readRanges [⟨first, first⟩] false (rest.takeWhile (· != ']')) with
    | error error => simp [ranges, bind, Except.bind] at read
    | ok ranges' =>
      simp only [ranges, bind, Except.bind] at read
      split at read
      · rename_i closing after' dropped
        have tail := (List.dropWhile_suffix (l := rest) (· != ']')).length_le
        rw [dropped] at tail
        simp only [pure, Except.pure, Except.ok.injEq, Prod.mk.injEq] at read
        obtain ⟨_, rfl⟩ := read
        simp only [List.length_cons] at short tail
        omega
      · simp [throw, throwThe, MonadExceptOf.throw] at read

theorem length_doubleStar_le (reading : Reading) (text : List Char) :
    (reading.doubleStar text).2.length ≤ text.length := by
  unfold Reading.doubleStar
  split
  · split <;> simp
  · split
    · simp
    · split
      · simp
      · split <;> simp

/-- Reads the rest of a pattern. -/
def read (reading : Reading) (text : List Char) : Except ParseError Tokens :=
  match text with
  | [] =>
    if reading.groups.isEmpty then .ok reading.tokens.reverse else .error .unclosedAlternatives
  | '?' :: rest => read (reading.push .anyByte '?') rest
  | '*' :: '*' :: rest =>
    let after := reading.doubleStar rest
    read after.1 after.2
  | '*' :: rest => read (reading.push .anyRun '*') rest
  | '[' :: rest =>
    match _read : readClass rest with
    | .error error => .error error
    | .ok (token, after) => read (reading.push token ']') after
  | '{' :: rest => read reading.openGroup rest
  | '}' :: rest =>
    match reading.closeGroup with
    | .error error => .error error
    | .ok reading => read reading rest
  | ',' :: rest => read reading.comma rest
  | '\\' :: c :: rest => read (reading.push (.literal c) c) rest
  | '\\' :: [] => .error .danglingEscape
  | c :: rest => read (reading.push (.literal c) c) rest
termination_by text.length
decreasing_by
  all_goals simp only [List.length_cons]
  · omega
  · have shorter := length_doubleStar_le reading rest
    omega
  · omega
  · have shorter := length_readClass_le _read
    omega
  all_goals omega

/-- The pattern that a text denotes. -/
def Tokens.parse (text : String) : Except ParseError Tokens :=
  read {} text.toList

end Symtab.Glob
