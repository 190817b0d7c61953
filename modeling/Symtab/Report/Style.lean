import Symtab.Kind

/-!
# Styled text

Text for a terminal that may be bold, dimmed or coloured. A styled text opens with the codes of its
style and closes with a reset. A reset inside the text would end the style early, so the style is
opened again after it. Padding is part of the text.
-/

set_option autoImplicit false

namespace Symtab

/-- A colour of the terminal. -/
inductive Color where
  | red
  | green
  | yellow
  | blue
  | magenta
  | cyan
  | white
  | brightGreen
  | brightBlue
  | brightMagenta
  deriving DecidableEq, Repr

/-- The code that selects a colour. -/
def Color.code : Color → Nat
  | .red => 31
  | .green => 32
  | .yellow => 33
  | .blue => 34
  | .magenta => 35
  | .cyan => 36
  | .white => 37
  | .brightGreen => 92
  | .brightBlue => 94
  | .brightMagenta => 95

/-- The colour that a kind is shown in. -/
def Kind.color : Kind → Color
  | .variable => .blue
  | .function => .green
  | .classType => .magenta
  | .method => .brightGreen
  | .parameter => .white
  | .constant => .yellow
  | .imported => .cyan
  | .builtin => .brightMagenta
  | .property => .brightBlue
  | .constructor => .red

/-- How a text is shown. -/
structure Style where
  bold : Bool := false
  dimmed : Bool := false
  color : Option Color := none
  deriving DecidableEq, Repr

namespace Style

/-- The codes of a style, in the order in which they are written. -/
def codes (style : Style) : List Nat :=
  (if style.bold then [1] else []) ++ (if style.dimmed then [2] else []) ++
    (style.color.map Color.code).toList

/-- The sequence that opens a style. -/
def opening (style : Style) : List Char :=
  '\x1b' :: '[' :: (List.intercalate [';'] (style.codes.map (Nat.toDigits 10)) ++ ['m'])

/-- The sequence that closes every style. -/
def reset : List Char :=
  ['\x1b', '[', '0', 'm']

/-- The text with `start` written again after each reset in it. -/
def reopen (start : List Char) : List Char → List Char
  | '\x1b' :: '[' :: '0' :: 'm' :: rest => reset ++ start ++ reopen start rest
  | c :: rest => c :: reopen start rest
  | [] => []

end Style

/-- Where the padding of a cell goes. -/
inductive Alignment where
  | left
  | right
  deriving DecidableEq, Repr

/-- A text filled with blanks to a least width. -/
def Alignment.pad (alignment : Alignment) (width : Nat) (text : List Char) : List Char :=
  match alignment with
  | .left => text.rightpad width ' '
  | .right => text.leftpad width ' '

/-- A text with the way it is shown. -/
structure Cell where
  text : String
  style : Style := {}
  alignment : Alignment := .left
  width : Nat := 0
  deriving DecidableEq, Repr

/-- The characters of a cell on a terminal with colours or without. -/
def Cell.render (colored : Bool) (cell : Cell) : List Char :=
  let pad := cell.alignment.pad cell.width
  if colored && !cell.style.codes.isEmpty then
    let start := cell.style.opening
    start ++ pad (Style.reopen start cell.text.toList) ++ Style.reset
  else
    pad cell.text.toList

end Symtab
