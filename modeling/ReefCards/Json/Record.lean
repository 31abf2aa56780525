import ReefCards.Json.Basic

/-!
# Records in JSON

A record with a fixed list of keys is written as an object, or as the array of its values in the
order of the keys. An object may leave out keys and hold others, which are passed over; an array may
end early. `Record` gives the values that are there, by key.
-/

namespace ReefCards.Json

/-- The values of a record that a JSON value gives, each with its key. -/
abbrev Record := List (Text × Json)

namespace Record

/-- The value of a key. -/
def get? (record : Record) (key : Text) : Option Json := record.lookup key

/-- The value of a key as `read?` understands it, or the default if the record leaves it out. -/
def getD? {α : Type} (record : Record) (key : Text) (read? : Json → Option α) (absent : α) :
    Option α :=
  match record.get? key with
  | some json => read? json
  | none => some absent

/-- The fields with one of the keys, if every field has a proper key and no key occurs twice among
them. -/
def ofFields? (keys : List Text) (fields : List (Option Text × Json)) : Option Record := do
  let named ← fields.mapM fun field => field.1.map fun key => (key, field.2)
  let known := named.filter fun field => keys.contains field.1
  if (known.map Prod.fst).Nodup then some known else none

/-- The record with these keys that a JSON value is. -/
def ofJson? (keys : List Text) : Json → Option Record
  | .object fields => ofFields? keys fields
  | .array items => if items.length ≤ keys.length then some (keys.zip items) else none
  | _ => none

end Record

mutual

/-- The value in which every object keeps only the last of the fields with one key. -/
def lastFields : Json → Json
  | .array items => .array (lastFieldsOfItems items)
  | .object fields => .object (lastFieldsOfFields fields)
  | value => value

/-- The items, each with only the last of the fields with one key. -/
def lastFieldsOfItems : List Json → List Json
  | [] => []
  | item :: rest => lastFields item :: lastFieldsOfItems rest

/-- The fields without those whose key comes again. -/
def lastFieldsOfFields : List (Option Text × Json) → List (Option Text × Json)
  | [] => []
  | (key, value) :: rest =>
    let later := lastFieldsOfFields rest
    if later.any fun field => field.1 = key then later else (key, lastFields value) :: later

end

end ReefCards.Json
