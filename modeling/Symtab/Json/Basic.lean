/-!
# JSON values

The values of the JSON format. Whole numbers are kept as numbers; any other number is kept as it was
written, so that nothing is rounded. The fields of an object are kept in order, and the last of
several fields of one name counts.
-/

set_option autoImplicit false

namespace Symtab

/-- A JSON value. -/
inductive Json where
  | null
  | bool (value : Bool)
  | int (value : Int)
  /-- A number that is not written as a whole number. -/
  | decimal (written : String)
  | string (text : String)
  | array (items : List Json)
  | object (fields : List (String × Json))
  deriving Repr, Inhabited

namespace Json

/-- The value of a field of an object; the last one, if there are several of that name. -/
def field? (name : String) : Json → Option Json
  | .object fields => (fields.reverse.find? fun field => field.1 == name).map (·.2)
  | _ => none

/-- The value of a field of an object, unless it is missing or null. -/
def given? (name : String) (value : Json) : Option Json :=
  match value.field? name with
  | some .null => none
  | found => found

/-- The text of a string value. -/
def text? : Json → Option String
  | .string text => some text
  | _ => none

/-- The truth value of a boolean. -/
def bool? : Json → Option Bool
  | .bool value => some value
  | _ => none

/-- The number of a whole number that is not negative and fits into 64 bits. -/
def word64? : Json → Option Nat
  | .int (.ofNat value) => if value < UInt64.size then some value else none
  | _ => none

/-- The items of an array. -/
def items? : Json → Option (List Json)
  | .array items => some items
  | _ => none

/-- The fields of an object. -/
def fields? : Json → Option (List (String × Json))
  | .object fields => some fields
  | _ => none

/-- A natural number as a value. -/
def ofNat (value : Nat) : Json :=
  .int value

/-- A list of texts as a value. -/
def ofTexts (texts : List String) : Json :=
  .array (texts.map .string)

/-- A text as a value, or null without one. -/
def ofText? : Option String → Json
  | some text => .string text
  | none => .null

end Json

end Symtab
