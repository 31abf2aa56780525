import ReefCards.Card.Basic
import ReefCards.Json.Record
import ReefCards.Decimal.Shortest

/-!
# Cards as JSON

Reading a card from a data set and writing it out. A count in a data set may be a number, a truth
value or null; a card is written with numbers only, and its length as decimal text.
-/

namespace ReefCards

/-- Numbers in a data set stay below this. -/
def countLimit : Nat := UInt32.size

/-- The count that a value stands for: true is one, false and null are none. -/
def count? : Json → Option Nat
  | .null => some 0
  | .bool value => some value.toNat
  | json => json.natural? countLimit

/-- The floating-point number that a value is. -/
def float? : Json → Option Float
  | .number value => value.float?
  | _ => none

namespace AbilityKind

/-- The name under which a kind of ability is written. -/
def name : AbilityKind → Text
  | .whenPlayed => "when-played"
  | .ifActivated => "if-activated"
  | .gameEnd => "game-end"

/-- The kind of ability that a name stands for, in either of its spellings. -/
def ofName? (name : Text) : Option AbilityKind :=
  if name = "when-played" ∨ name = "WhenPlayed" then some .whenPlayed
  else if name = "if-activated" ∨ name = "IfActivated" then some .ifActivated
  else if name = "game-end" ∨ name = "GameEnd" then some .gameEnd
  else none

end AbilityKind

namespace Card

/-- The keys of a card in the order in which an array gives their values. -/
def keys : List Text :=
  ["id", "group", "length", "name", "latin", "description", "ability", "abilityType", "points",
    "band", "cardCost", "eggCost", "youngCost", "consuming", "sunlight", "twilight", "midnight",
    "Bioluminescent", "Camouflage", "Electric", "Predator", "Venomous"]

/-- The card with the values of a record, where only the number may not be missing. -/
def ofRecord? (record : Json.Record) : Option Card := do
  let id ← (← record.get? "id").natural? countLimit
  let group ← record.getD? "group" Json.text? []
  let length ← record.getD? "length" float? 0
  let name ← record.getD? "name" Json.text? []
  let latin ← record.getD? "latin" Json.text? []
  let description ← record.getD? "description" Json.text? []
  let ability ← record.getD? "ability" Json.text? []
  let abilityKind ← record.getD? "abilityType"
    (Json.nullable? fun json => json.choice?.bind AbilityKind.ofName?) none
  let points ← record.getD? "points" (Json.nullable? (Json.natural? countLimit)) none
  let band ← record.getD? "band" (Json.nullable? Json.text?) none
  let cardCost ← record.getD? "cardCost" count? 0
  let eggCost ← record.getD? "eggCost" count? 0
  let youngCost ← record.getD? "youngCost" count? 0
  let consuming ← record.getD? "consuming" count? 0
  let sunlight ← record.getD? "sunlight" count? 0
  let twilight ← record.getD? "twilight" count? 0
  let midnight ← record.getD? "midnight" count? 0
  let bioluminescent ← record.getD? "Bioluminescent" count? 0
  let camouflage ← record.getD? "Camouflage" count? 0
  let electric ← record.getD? "Electric" count? 0
  let predator ← record.getD? "Predator" count? 0
  let venomous ← record.getD? "Venomous" count? 0
  pure {
    id, group, length, name, latin, description, ability, abilityKind, points, band, cardCost,
    eggCost, youngCost, consuming, sunlight, twilight, midnight, bioluminescent, camouflage,
    electric, predator, venomous }

/-- The card that a JSON value is. -/
def ofJson? (json : Json) : Option Card := (Json.Record.ofJson? keys json).bind ofRecord?

/-- The value of an optional field, null when there is none. -/
def orNull {α : Type} (toJson : α → Json) (value : Option α) : Json :=
  (value.map toJson).getD .null

/-- The card as a JSON value. -/
def toJson (card : Card) : Json :=
  .ofFields (keys.zip [
    .ofNat card.id, .ofText card.group, .ofText (Decimal.text card.length), .ofText card.name,
    .ofText card.latin, .ofText card.description, .ofText card.ability,
    orNull (fun kind => .ofText kind.name) card.abilityKind, orNull .ofNat card.points,
    orNull .ofText card.band, .ofNat card.cardCost, .ofNat card.eggCost, .ofNat card.youngCost,
    .ofNat card.consuming, .ofNat card.sunlight, .ofNat card.twilight, .ofNat card.midnight,
    .ofNat card.bioluminescent, .ofNat card.camouflage, .ofNat card.electric,
    .ofNat card.predator, .ofNat card.venomous])

end Card
end ReefCards
