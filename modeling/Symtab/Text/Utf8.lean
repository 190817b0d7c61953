/-!
# Texts as bytes

The encoded form of a text, and the reading of bytes that need not be valid. Reading never fails:
each longest run of bytes that starts a character and cannot be continued, and each byte that cannot
start one, is read as one replacement character.
-/

set_option autoImplicit false

namespace Symtab.Text

/-- The bytes of a text. -/
def encode (text : List Char) : List UInt8 :=
  text.flatMap String.utf8EncodeChar

/-- What stands for bytes that are no character. -/
def replacement : Char := '�'

/-- The number of bytes that follow a first byte, and the bounds of the one right after it. -/
def followers? (first : UInt8) : Option (Nat × UInt8 × UInt8) :=
  if first < 0x80 then some (0, 0, 0)
  else if first < 0xC2 then none
  else if first ≤ 0xDF then some (1, 0x80, 0xBF)
  else if first = 0xE0 then some (2, 0xA0, 0xBF)
  else if first = 0xED then some (2, 0x80, 0x9F)
  else if first ≤ 0xEF then some (2, 0x80, 0xBF)
  else if first = 0xF0 then some (3, 0x90, 0xBF)
  else if first ≤ 0xF3 then some (3, 0x80, 0xBF)
  else if first = 0xF4 then some (3, 0x80, 0x8F)
  else none

/-- The payload of a first byte, given the number of bytes that follow it. -/
def leadPayload (first : UInt8) (following : Nat) : Nat :=
  match following with
  | 0 => first.toNat
  | 1 => first.toNat % 0x20
  | 2 => first.toNat % 0x10
  | _ => first.toNat % 0x08

/-- Reads up to `missing` more bytes of a character with payload `point`. The next byte must lie
between `low` and `high`, the later ones must be continuations. Gives the character read and the
bytes left. -/
def readFollowers (point : Nat) (low high : UInt8) : Nat → List UInt8 → Char × List UInt8
  | 0, bytes => (Char.ofNat point, bytes)
  | _ + 1, [] => (replacement, [])
  | missing + 1, byte :: rest =>
    if low ≤ byte && byte ≤ high then
      readFollowers (point * 0x40 + byte.toNat % 0x40) 0x80 0xBF missing rest
    else
      (replacement, byte :: rest)

/-- Reads one character that starts with the byte `first`. -/
def readChar (first : UInt8) (rest : List UInt8) : Char × List UInt8 :=
  match followers? first with
  | none => (replacement, rest)
  | some (following, low, high) =>
    readFollowers (leadPayload first following) low high following rest

theorem length_readFollowers_le (point : Nat) (low high : UInt8) (missing : Nat)
    (bytes : List UInt8) :
    (readFollowers point low high missing bytes).2.length ≤ bytes.length := by
  induction missing generalizing point low high bytes with
  | zero => simp [readFollowers]
  | succ missing ih =>
    cases bytes with
    | nil => simp [readFollowers]
    | cons byte rest =>
      rw [readFollowers]
      split
      · exact Nat.le_succ_of_le (ih _ _ _ rest)
      · exact Nat.le_refl _

theorem length_readChar_le (first : UInt8) (rest : List UInt8) :
    (readChar first rest).2.length ≤ rest.length := by
  rw [readChar]
  split
  · exact Nat.le_refl _
  · exact length_readFollowers_le ..

/-- The characters of a byte sequence, after the characters `done`, last first. -/
def decodeAfter (done : List Char) : List UInt8 → List Char
  | [] => done.reverse
  | first :: rest =>
    let next := readChar first rest
    decodeAfter (next.1 :: done) next.2
termination_by bytes => bytes.length
decreasing_by exact Nat.lt_succ_of_le (length_readChar_le first rest)

/-- The characters of a byte sequence, with a replacement character for whatever is not valid. -/
def decodeLossy (bytes : List UInt8) : List Char :=
  decodeAfter [] bytes

end Symtab.Text
