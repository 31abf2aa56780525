import ReefCards.Json.Numeral

/-!
# JSON values

A value of a JSON document. A string is the text it stands for, or no text when an escape in it
names half of a surrogate pair without the other half; such a string is still a value, so a reader
that skips it does not mind.
-/

namespace ReefCards

/-- A value of a JSON document. Fields keep their order, and a key may occur more than once. -/
inductive Json where
  | null
  | bool (value : Bool)
  | number (value : Json.Numeral)
  | string (value : Option Text)
  | array (items : List Json)
  | object (fields : List (Option Text × Json))

namespace Json

/-- The string that stands for a text. -/
def ofText (text : Text) : Json := .string (some text)

/-- The number that stands for a natural number. -/
def ofNat (n : Nat) : Json := .number (.ofNat n)

/-- The object of fields with proper keys. -/
def ofFields (fields : List (Text × Json)) : Json :=
  .object (fields.map fun field => (some field.1, field.2))

/-- The text of a string. -/
def text? : Json → Option Text
  | .string value => value
  | _ => none

/-- The truth value of a boolean. -/
def bool? : Json → Option Bool
  | .bool value => some value
  | _ => none

/-- The natural number below `limit` that a number is. -/
def natural? (limit : Nat) : Json → Option Nat
  | .number value => value.natural? limit
  | _ => none

/-- The items of an array. -/
def items? : Json → Option (List Json)
  | .array items => some items
  | _ => none

/-- Reads a value that may be null. -/
def nullable? {α : Type} (read? : Json → Option α) : Json → Option (Option α)
  | .null => some none
  | json => (read? json).map some

/-- The name that a value gives for a choice: a string, or an object whose one key is the name and
has the value null. -/
def choice? : Json → Option Text
  | .string value => value
  | .object [(key, .null)] => key
  | _ => none

end Json
end ReefCards
