import ReefCards.Proofs.Card.Named
import ReefCards.Proofs.Json.Document
import ReefCards.Proofs.Json.Record
import ReefCards.Proofs.OrderedMap
import ReefCards.Search.Query

/-!
# Queries read back

A query is read back from its JSON text as it was, with every switch that it has and no other: the
defaults stand in for fields that a text leaves out, and the text of a query leaves none out. Main
statements: `switchesOfJson?_switchesToJson`, `ofJson?_toJson` and `parse?_print`.
-/

namespace ReefCards

namespace Query

/-- Switches keep to the rules of JSON. -/
theorem wellFormed_switchesToJson {κ : Type} [Ord κ] (name : κ → Text)
    (switches : OrderedMap κ Bool) : (switchesToJson name switches).WellFormed := by
  refine Json.wellFormed_ofFields fun field hfield => ?_
  obtain ⟨entry, -, rfl⟩ := List.mem_map.1 hfield
  exact Json.wellFormed_bool entry.2

/-- Switches are read back when their keys are known by what is written for them. -/
theorem switchesOfJson?_switchesToJson {κ : Type} [Ord κ] [Std.TransOrd κ] [Std.LawfulEqOrd κ]
    {name : κ → Text} {key? : Text → Option κ} (h : ∀ key, key? (name key) = some key)
    (switches : OrderedMap κ Bool) :
    switchesOfJson? key? (switchesToJson name switches) = some switches := by
  have hentries : ((switches.entries.map fun entry => (name entry.1, Json.bool entry.2)).map
      fun field => (some field.1, field.2)).mapM (fun field : Option Text × Json => do
        let key ← field.1.bind key?
        let on ← field.2.bool?
        pure (key, on)) = some switches.entries := by
    rw [List.map_map]
    refine Json.mapM_map_eq_some fun entry _ => ?_
    simp [h, Json.bool?]
  rw [switchesToJson, Json.ofFields, switchesOfJson?, hentries]
  simp [OrderedMap.ofList_entries]

/-- A query keeps to the rules of JSON. -/
theorem wellFormed_toJson (query : Query) : query.toJson.WellFormed := by
  refine Json.wellFormed_ofFields fun field hfield => ?_
  simp only [keys, List.zip_cons_cons, List.zip_nil_left, List.mem_cons, List.not_mem_nil,
    or_false] at hfield
  rcases hfield with rfl | rfl | rfl | rfl | rfl
  · exact Json.wellFormed_ofText query.text
  all_goals exact wellFormed_switchesToJson _ _

/-- A query is read back from its JSON value. -/
theorem ofJson?_toJson (query : Query) : ofJson? query.toJson = some query := by
  have hrecord (values : List Json) (hlength : values.length = 5) :
      Json.Record.ofJson? keys (.ofFields (keys.zip values)) = some (keys.zip values) :=
    Json.Record.ofJson?_zip (by decide) (by rw [hlength]; decide)
  have hgroups : switchesOfJson? some (switchesToJson id query.groups) = some query.groups :=
    switchesOfJson?_switchesToJson (fun _ => rfl) query.groups
  have hsizes := switchesOfJson?_switchesToJson Named.exactly?_name query.sizes
  have hzones := switchesOfJson?_switchesToJson Named.exactly?_name query.zones
  have htags := switchesOfJson?_switchesToJson Named.exactly?_name query.tags
  have hstep : ofJson? query.toJson = (do
      let text ← (Json.ofText query.text).text?
      let groups ← switchesOfJson? some (switchesToJson id query.groups)
      let sizes ← switchesOfJson? Named.exactly? (switchesToJson Named.name query.sizes)
      let zones ← switchesOfJson? Named.exactly? (switchesToJson Named.name query.zones)
      let tags ← switchesOfJson? Named.exactly? (switchesToJson Named.name query.tags)
      pure { text, groups, sizes, zones, tags }) := by
    rw [ofJson?, toJson, hrecord _ rfl]
    rfl
  rw [hstep, hgroups, hsizes, hzones, htags]
  rfl

/-- A query is read back from its text, with each switch as it stands and no other, whichever
switches it has. So two different queries are never written alike. -/
theorem parse?_print :
    (∀ query : Query, parse? query.print = some query) ∧
      ∀ first second : Query, first.print = second.print → first = second := by
  have hread (query : Query) : parse? query.print = some query := by
    rw [parse?, print, Json.parse?_compact (wellFormed_toJson query), Option.bind_some,
      ofJson?_toJson]
  refine ⟨hread, fun first second h => ?_⟩
  have hfirst := hread first
  rw [h, hread second] at hfirst
  exact (Option.some.inj hfirst).symm

end Query
end ReefCards
