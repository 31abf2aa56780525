import ReefCards.OrderedMap
import ReefCards.Card.Facet
import ReefCards.Json.Printer
import ReefCards.Json.Record
import ReefCards.Json.Document

/-!
# Queries

What a user asks for: a search text, and a switch for each value of each facet. A query is written
as a JSON object of five fields; when it is read, a field that is missing takes the default query's
value as a whole.
-/

namespace ReefCards

/-- A search text and the switches of the facets. The default asks for all published cards. -/
structure Query where
  text : Text := []
  groups : OrderedMap Text Bool := .ofList [("main", true), ("starter", true)]
  sizes : OrderedMap Size Bool := .ofList (Named.all.map fun size => (size, true))
  zones : OrderedMap Zone Bool := .ofList (Named.all.map fun zone => (zone, true))
  tags : OrderedMap Trait Bool := .ofList (Named.all.map fun mark => (mark, false))
  deriving DecidableEq

namespace Query

/-- The query with another text. -/
def withText (query : Query) (text : Text) : Query := { query with text }

/-- The query with the switch of a group set. -/
def withGroup (query : Query) (group : Text) (on : Bool) : Query :=
  { query with groups := query.groups.insert group on }

/-- The query with the switch of a size set. -/
def withSize (query : Query) (size : Size) (on : Bool) : Query :=
  { query with sizes := query.sizes.insert size on }

/-- The query with the switch of a zone set. -/
def withZone (query : Query) (zone : Zone) (on : Bool) : Query :=
  { query with zones := query.zones.insert zone on }

/-- The query with the switch of a trait set. -/
def withTag (query : Query) (mark : Trait) (on : Bool) : Query :=
  { query with tags := query.tags.insert mark on }

/-- Switches as a JSON object, with each key written by `name`. -/
def switchesToJson {κ : Type} [Ord κ] (name : κ → Text) (switches : OrderedMap κ Bool) : Json :=
  .ofFields (switches.entries.map fun entry => (name entry.1, .bool entry.2))

/-- The switches that a JSON object gives, with each key read by `key?`. -/
def switchesOfJson? {κ : Type} [Ord κ] [Std.TransOrd κ] [Std.LawfulEqOrd κ]
    (key? : Text → Option κ) : Json → Option (OrderedMap κ Bool)
  | .object fields => do
    let entries ← fields.mapM fun (field : Option Text × Json) => do
      let key ← field.1.bind key?
      let on ← field.2.bool?
      pure (key, on)
    pure (.ofList entries)
  | _ => none

/-- The keys of a query in the order in which they are written. -/
def keys : List Text := ["text", "group", "length", "zones", "tags"]

/-- The query as a JSON value. -/
def toJson (query : Query) : Json :=
  .ofFields (keys.zip [
    .ofText query.text, switchesToJson id query.groups, switchesToJson Named.name query.sizes,
    switchesToJson Named.name query.zones, switchesToJson Named.name query.tags])

/-- The query that a JSON value is. -/
def ofJson? (json : Json) : Option Query := do
  let standard : Query := {}
  let record ← Json.Record.ofJson? keys json
  let text ← record.getD? "text" Json.text? standard.text
  let groups ← record.getD? "group" (switchesOfJson? some) standard.groups
  let sizes ← record.getD? "length" (switchesOfJson? Named.exactly?) standard.sizes
  let zones ← record.getD? "zones" (switchesOfJson? Named.exactly?) standard.zones
  let tags ← record.getD? "tags" (switchesOfJson? Named.exactly?) standard.tags
  pure { text, groups, sizes, zones, tags }

/-- The query as JSON text. -/
def print (query : Query) : Text := query.toJson.compact

/-- The query that a JSON text is. -/
def parse? (text : Text) : Option Query := (Json.parse? text).bind ofJson?

end Query
end ReefCards
