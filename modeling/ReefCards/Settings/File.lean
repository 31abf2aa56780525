import ReefCards.Settings.Basic
import ReefCards.Json.Document
import ReefCards.Json.Printer
import ReefCards.Json.Record

/-!
# The settings file

Settings are kept as a JSON document of three fields. A field that is missing has its default, and
so have all of them while there is no file.
-/

namespace ReefCards.Settings

/-- The keys of the settings in the order in which they are written. -/
def keys : List Text := (Named.all : List Setting).map Named.name

/-- The settings as a JSON value. -/
def toJson (settings : Settings) : Json :=
  .ofFields (keys.zip [
    (settings.cardsPath.map Json.ofText).getD .null,
    .array (settings.fields.map fun field => .ofText (Named.name field)),
    .ofNat settings.lineWidth])

/-- The index field that a JSON value names. -/
def fieldOfJson? (json : Json) : Option Field := json.choice?.bind Named.exactly?

/-- The settings that a JSON value is. -/
def ofJson? (json : Json) : Option Settings := do
  let standard : Settings := {}
  let record ← Json.Record.ofJson? keys json
  let cardsPath ← record.getD? (Named.name Setting.cardsPath) (Json.nullable? Json.text?)
    standard.cardsPath
  let fields ← record.getD? (Named.name Setting.fields)
    (fun json => json.items?.bind (List.mapM fieldOfJson?)) standard.fields
  let lineWidth ← record.getD? (Named.name Setting.lineWidth) (Json.natural? widthLimit)
    standard.lineWidth
  pure { cardsPath, fields, lineWidth }

/-- The text of the settings file. -/
def print (settings : Settings) : Text := settings.toJson.pretty

/-- The settings in a settings file, if there is one. -/
def load (file : Option Text) : Except Failure Settings :=
  match file with
  | none => .ok {}
  | some text =>
    match (Json.parse? text).bind ofJson? with
    | some settings => .ok settings
    | none => .error .serialization

end ReefCards.Settings
