import ReefCards.Proofs.Search.Run
import ReefCards.Proofs.Search.Switch
import Mathlib.Data.List.DropRight

/-!
# Net edits

What is left of the actions of a session in which every edit is evaluated at once. Each switch of
the query stands as it was last set since the last reset, or else as in the default query, whatever
was typed or set in between. Main statements: `switch?_editFacets`, what one action does to a switch,
and `applied_net_edits`.
-/

namespace ReefCards

/-- The switch that an action sets, and how. -/
def Action.setting? : Action → Option (Switch × Bool)
  | .setGroup group on => some (.group group, on)
  | .setSize size on => some (.size size, on)
  | .setZone zone on => some (.zone zone, on)
  | .setTag mark on => some (.tag mark, on)
  | .type _ | .insertIcon _ | .backspace | .clear | .reset => none

/-- The actions that come after the last reset. -/
def sinceReset (actions : List Action) : List Action := actions.rtakeWhile (· != .reset)

/-- How a switch was last set since the last reset, if it was. -/
def lastSetting? (switch : Switch) (actions : List Action) : Option Bool :=
  ((sinceReset actions).filterMap Action.setting?).reverse.lookup switch

/-- A reset leaves nothing set. -/
theorem lastSetting?_concat_reset (switch : Switch) (actions : List Action) :
    lastSetting? switch (actions ++ [.reset]) = none := by
  simp [lastSetting?, sinceReset]

/-- Any other action counts first, and then what was set before. -/
theorem lastSetting?_concat {action : Action} (h : action ≠ .reset) (switch : Switch)
    (actions : List Action) :
    lastSetting? switch (actions ++ [action]) =
      (action.setting?.toList.lookup switch).or (lastSetting? switch actions) := by
  have hsince : sinceReset (actions ++ [action]) = sinceReset actions ++ [action] := by
    simp [sinceReset, h]
  have hsettings : ([action].filterMap Action.setting?).reverse = action.setting?.toList := by
    rw [List.filterMap_cons]
    cases action.setting? <;> rfl
  rw [lastSetting?, hsince, List.filterMap_append, List.reverse_append, List.lookup_append,
    hsettings, ← lastSetting?]

namespace Session

variable {catalog : Catalog} {vocabulary : Vocabulary}

/-- An action other than a reset changes the facets by its setting alone. -/
theorem editFacets_eq {action : Action} (h : action ≠ .reset) (query : Query) :
    editFacets query action =
      (action.setting?.map fun setting => query.set setting.1 setting.2).getD query := by
  cases action with
  | reset => exact absurd rfl h
  | _ => rfl

/-- After an action other than a reset, a switch stands as the action sets it, or else as before. -/
theorem switch?_editFacets {action : Action} (h : action ≠ .reset) (query : Query)
    (switch : Switch) :
    (editFacets query action).switch? switch =
      (action.setting?.toList.lookup switch).or (query.switch? switch) := by
  rw [editFacets_eq h]
  rcases action.setting? with _ | ⟨changed, on⟩
  · rfl
  · rw [Option.map_some, Option.getD_some, Query.switch?_set, Option.toList_some, List.lookup_cons]
    by_cases heq : switch = changed
    · simp [heq]
    · simp [heq, beq_eq_false_iff_ne.2 heq]

/-- A session in which every action is evaluated at once. -/
def applied (catalog : Catalog) (vocabulary : Vocabulary) (actions : List Action) : Session :=
  run catalog vocabulary (actions.map .apply)

/-- A session takes its actions one after the other. -/
theorem applied_eq_foldl (catalog : Catalog) (vocabulary : Vocabulary) (actions : List Action) :
    applied catalog vocabulary actions =
      actions.foldl (Session.apply catalog) (start catalog vocabulary) := by
  rw [applied, run, List.foldl_map]
  rfl

/-- The last action is applied after the others. -/
theorem applied_concat (catalog : Catalog) (vocabulary : Vocabulary) (actions : List Action)
    (action : Action) :
    applied catalog vocabulary (actions ++ [action]) =
      (applied catalog vocabulary actions).apply catalog action := by
  rw [applied, List.map_append, List.map_singleton, run_concat]
  rfl

/-- The query of a session asks for the text of the search box. -/
theorem text_applied (catalog : Catalog) (vocabulary : Vocabulary) (actions : List Action) :
    (applied catalog vocabulary actions).query.text =
      (applied catalog vocabulary actions).box.text :=
  (consistent_run catalog vocabulary _).text_eq

/-- What the query asks for is on display. -/
theorem results_applied (catalog : Catalog) (vocabulary : Vocabulary) (actions : List Action) :
    (applied catalog vocabulary actions).results =
      catalog.evaluate (applied catalog vocabulary actions).query := by
  rcases List.eq_nil_or_concat actions with rfl | ⟨past, action, rfl⟩
  · rfl
  · rw [List.concat_eq_append, applied_concat, apply_eq]

/-- Each switch stands as it was last set since the last reset, or else as in the default query. -/
theorem switch?_applied (catalog : Catalog) (vocabulary : Vocabulary) (actions : List Action)
    (switch : Switch) :
    (applied catalog vocabulary actions).query.switch? switch =
      (lastSetting? switch actions).or (({} : Query).switch? switch) := by
  induction actions using List.reverseRecOn with
  | nil => rfl
  | append_singleton past action ih =>
    have hquery : (applied catalog vocabulary (past ++ [action])).query.switch? switch =
        (editFacets (applied catalog vocabulary past).query action).switch? switch := by
      rw [applied_concat, apply_eq]
      rfl
    rw [hquery]
    by_cases h : action = .reset
    · subst h
      rw [lastSetting?_concat_reset]
      rfl
    · rw [switch?_editFacets h, lastSetting?_concat h, ih, Option.or_assoc]

/-- A session goes by its net edits. Each switch of the query stands as it was last set since the
last reset, or else as in the default query. So two sessions that end with the same text and in
which every switch was last set alike since the last reset end with the same query and results, and
a session that ends with a reset looks like a new one. -/
theorem applied_net_edits (catalog : Catalog) (vocabulary : Vocabulary) (actions : List Action) :
    let session := applied catalog vocabulary actions
    (∀ switch, session.query.switch? switch =
        (lastSetting? switch actions).or (({} : Query).switch? switch)) ∧
      (∀ others, (applied catalog vocabulary others).box.text = session.box.text →
        (∀ switch, lastSetting? switch others = lastSetting? switch actions) →
          (applied catalog vocabulary others).query = session.query ∧
            (applied catalog vocabulary others).results = session.results) ∧
      (let final := applied catalog vocabulary (actions ++ [.reset])
        let fresh := start catalog vocabulary
        final.box.text = fresh.box.text ∧ final.box.cursor = fresh.box.cursor ∧
          final.query = fresh.query ∧ final.results = fresh.results) := by
  intro session
  refine ⟨switch?_applied catalog vocabulary actions, fun others htext hsettings => ?_, ?_⟩
  · have hquery : (applied catalog vocabulary others).query = session.query := by
      refine Query.ext_switch? ?_ fun switch => ?_
      · rw [text_applied, text_applied, htext]
      · rw [switch?_applied, switch?_applied, hsettings]
    exact ⟨hquery, by rw [results_applied, results_applied, hquery]⟩
  · rw [applied_concat, apply_eq]
    exact ⟨rfl, rfl, rfl, rfl⟩

end Session
end ReefCards
