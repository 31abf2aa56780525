import ReefCards.Json.Record

/-!
# Records read back

A record that is written as an object with all its keys is read back with all its values. Main
statements: `mapM_map_eq_some` and `Record.ofJson?_zip`.
-/

namespace ReefCards.Json

/-- What is written item by item is read back item by item. -/
theorem mapM_map_eq_some {α β : Type} {write : α → β} {read? : β → Option α} {items : List α}
    (h : ∀ item ∈ items, read? (write item) = some item) :
    (items.map write).mapM read? = some items := by
  induction items with
  | nil => rfl
  | cons item rest ih =>
    obtain ⟨hitem, hrest⟩ := List.forall_mem_cons.1 h
    rw [List.map_cons, List.mapM_cons, hitem, ih hrest]
    rfl

namespace Record

/-- An object with some of the keys, each once, is the record of its fields. -/
theorem ofJson?_ofFields {keys : List Text} {fields : List (Text × Json)}
    (hkeys : ∀ field ∈ fields, field.1 ∈ keys) (honce : (fields.map Prod.fst).Nodup) :
    ofJson? keys (.ofFields fields) = some fields := by
  have hnamed : (fields.map fun field => (some field.1, field.2)).mapM
      (fun field : Option Text × Json => field.1.map fun key => (key, field.2)) = some fields :=
    mapM_map_eq_some fun _ _ => rfl
  have hknown : fields.filter (fun field => keys.contains field.1) = fields :=
    List.filter_eq_self.2 fun field hfield => by simpa using hkeys field hfield
  rw [ofFields, ofJson?, ofFields?, hnamed]
  simp only [Option.bind_eq_bind, Option.bind_some, hknown, if_pos honce]

/-- An object that gives each of the keys a value is the record of these values. -/
theorem ofJson?_zip {keys : List Text} {values : List Json} (hkeys : keys.Nodup)
    (hlength : keys.length ≤ values.length) :
    ofJson? keys (.ofFields (keys.zip values)) = some (keys.zip values) := by
  refine ofJson?_ofFields (fun field hfield => (List.of_mem_zip hfield).1) ?_
  rwa [List.map_fst_zip hlength]

end Record
end ReefCards.Json
