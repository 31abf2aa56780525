import ReefCards.Proofs.Card.Named
import ReefCards.Proofs.Json.Document
import ReefCards.Proofs.Json.Record
import ReefCards.Settings.File

/-!
# Settings read back

The settings file gives back the settings that it was written from: any path, whatever its
characters, any list of fields and any line width below the limit. Main statements:
`ofJson?_toJson` and `load_print`.
-/

namespace ReefCards

namespace Settings

/-- Settings keep to the rules of JSON. -/
theorem wellFormed_toJson (settings : Settings) : settings.toJson.WellFormed := by
  refine Json.wellFormed_ofFields fun field hfield => ?_
  rcases List.of_mem_zip hfield with ⟨-, hvalue⟩
  simp only [List.mem_cons, List.not_mem_nil, or_false] at hvalue
  rcases hvalue with hpath | hfields | hwidth
  · rw [hpath]
    cases settings.cardsPath with
    | none => exact Json.wellFormed_null
    | some path => exact Json.wellFormed_ofText path
  · rw [hfields]
    exact Json.wellFormed_array (List.forall_mem_map.2 fun _ _ => Json.wellFormed_ofText _)
  · rw [hwidth]
    exact Json.wellFormed_ofNat settings.lineWidth

/-- A path that may be missing is read back from the text or null that stands for it. -/
theorem nullable?_path (path : Option Text) :
    Json.nullable? Json.text? ((path.map Json.ofText).getD .null) = some path := by
  cases path <;> rfl

/-- Index fields are read back from their names. -/
theorem mapM_fieldOfJson? (fields : List Field) :
    (fields.map fun field => Json.ofText (Named.name field)).mapM fieldOfJson? = some fields :=
  Json.mapM_map_eq_some fun field _ => Named.exactly?_name field

/-- Settings are read back from their JSON value when the line width keeps to its limit. -/
theorem ofJson?_toJson {settings : Settings} (h : settings.lineWidth < widthLimit) :
    ofJson? settings.toJson = some settings := by
  have hrecord (values : List Json) (hlength : values.length = 3) :
      Json.Record.ofJson? keys (.ofFields (keys.zip values)) = some (keys.zip values) :=
    Json.Record.ofJson?_zip (by decide) (by rw [hlength]; decide)
  have hstep : ofJson? settings.toJson = (do
      let cardsPath ← Json.nullable? Json.text? ((settings.cardsPath.map Json.ofText).getD .null)
      let fields ← (settings.fields.map fun field => Json.ofText (Named.name field)).mapM
        fieldOfJson?
      let lineWidth ← Json.Numeral.natural? widthLimit (.ofNat settings.lineWidth)
      pure { cardsPath, fields, lineWidth }) := by
    rw [ofJson?, toJson, hrecord _ rfl]
    rfl
  rw [hstep, nullable?_path, mapM_fieldOfJson?, Json.Numeral.natural?_ofNat _ _ h]
  rfl

/-- A settings file gives back the settings that were written to it. -/
theorem load_print {settings : Settings} (h : settings.lineWidth < widthLimit) :
    load (some settings.print) = .ok settings := by
  have hread : (Json.parse? settings.print).bind ofJson? = some settings := by
    rw [print, Json.parse?_pretty (wellFormed_toJson settings), Option.bind_some,
      ofJson?_toJson h]
  simp only [load, hread]

end Settings
end ReefCards
