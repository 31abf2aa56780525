import ReefCards.Proofs.Search.NetEdits
import ReefCards.Proofs.Search.Tally
import ReefCards.Terminal.Arguments

/-!
# Flags and actions

A user can ask with a text and facet flags at once, or type the text and set the switches one by one
in a session. Every flag puts its switch into the strict position, so neither the order nor the
repetition of flags and actions matters, and both ways lead to the same query. Main statements:
`FacetFlags.switch?_toQuery`, `Session.switch?_applied_of_actions` and
`FacetFlags.session_eq_toQuery`.
-/

namespace ReefCards

variable {flags others : FacetFlags} {text : Text}

/-- A switch that occurs in a list of settings, all of them strict, is found there as strict. -/
theorem lookup_of_strict {settings : List (Switch × Bool)} (switch : Switch)
    (h : ∀ setting ∈ settings, setting.2 = setting.1.strict) :
    settings.lookup switch =
      if (switch, switch.strict) ∈ settings then some switch.strict else none := by
  induction settings with
  | nil => rfl
  | cons first rest ih =>
    obtain ⟨other, on⟩ := first
    obtain ⟨hfirst, hrest⟩ := List.forall_mem_cons.1 h
    obtain rfl : on = other.strict := hfirst
    rw [List.lookup_cons, ih hrest]
    by_cases heq : switch = other
    · simp [heq]
    · simp [heq, beq_eq_false_iff_ne.2 heq]

namespace Query

/-- The query with some switches put into their strict position. -/
def tighten (query : Query) (switches : List Switch) : Query :=
  switches.foldl (fun query switch => query.set switch switch.strict) query

/-- The switches in question are strict, and the others stand as before. -/
theorem switch?_tighten (query : Query) (switches : List Switch) (switch : Switch) :
    (query.tighten switches).switch? switch =
      if switch ∈ switches then some switch.strict else query.switch? switch := by
  induction switches generalizing query with
  | nil => rfl
  | cons first rest ih =>
    have hstep : query.tighten (first :: rest) = (query.set first first.strict).tighten rest := rfl
    rw [hstep, ih, switch?_set]
    by_cases hrest : switch ∈ rest
    · simp [hrest]
    · by_cases heq : switch = first
      · simp [heq]
      · simp [hrest, heq]

/-- Tightening switches leaves the text. -/
theorem text_tighten (query : Query) (switches : List Switch) :
    (query.tighten switches).text = query.text := by
  induction switches generalizing query with
  | nil => rfl
  | cons first rest ih => exact (ih (query.set first first.strict)).trans (text_set _ _ _)

end Query

namespace FacetFlags

/-- The switches that flags put into their strict position. -/
def switches (flags : FacetFlags) : List Switch :=
  flags.hiddenGroups.map .group ++ flags.hiddenSizes.map .size ++
    flags.forbiddenZones.map .zone ++ flags.requiredTraits.map .tag

/-- What a user does in a session who asks for a text under these flags. -/
def actions (flags : FacetFlags) (text : Text) : List Action :=
  .type text ::
    (flags.hiddenGroups.map (.setGroup · false) ++ flags.hiddenSizes.map (.setSize · false) ++
      flags.forbiddenZones.map (.setZone · false) ++ flags.requiredTraits.map (.setTag · true))

/-- Whether two collections of flags hold the same flags, in whichever order and however often. -/
structure SameAs (flags others : FacetFlags) : Prop where
  groups : ∀ group, group ∈ flags.hiddenGroups ↔ group ∈ others.hiddenGroups
  sizes : ∀ size, size ∈ flags.hiddenSizes ↔ size ∈ others.hiddenSizes
  zones : ∀ zone, zone ∈ flags.forbiddenZones ↔ zone ∈ others.forbiddenZones
  traits : ∀ mark, mark ∈ flags.requiredTraits ↔ mark ∈ others.requiredTraits

/-- The same flags are about the same switches. -/
theorem SameAs.mem_switches_iff (h : flags.SameAs others) (switch : Switch) :
    switch ∈ flags.switches ↔ switch ∈ others.switches := by
  simp [switches, h.groups, h.sizes, h.zones, h.traits]

/-- The query of flags is the default query with the switches of the flags tightened. -/
theorem toQuery_eq_tighten (flags : FacetFlags) (text : Text) :
    flags.toQuery (some text) = (Query.withText {} text).tighten flags.switches := by
  simp only [Query.tighten, switches, List.foldl_append, List.foldl_map]
  rfl

/-- In the query of flags, the switches of the flags are strict and the others as by default. -/
theorem switch?_toQuery (flags : FacetFlags) (text : Text) (switch : Switch) :
    (flags.toQuery (some text)).switch? switch =
      if switch ∈ flags.switches then some switch.strict else ({} : Query).switch? switch := by
  rw [toQuery_eq_tighten, Query.switch?_tighten]
  cases switch <;> rfl

/-- The query of flags asks for the text. -/
theorem text_toQuery (flags : FacetFlags) (text : Text) :
    (flags.toQuery (some text)).text = text := by
  rw [toQuery_eq_tighten, Query.text_tighten]
  rfl

/-- The actions set the switches of the flags, each into its strict position. -/
theorem filterMap_setting?_actions (flags : FacetFlags) (text : Text) :
    (flags.actions text).filterMap Action.setting? =
      flags.switches.map fun switch => (switch, switch.strict) := by
  rw [actions, List.filterMap_cons_none rfl]
  simp [switches, Action.setting?, Switch.strict, Function.comp_def, List.filterMap_eq_map']

/-- An action in place of flags types the text or sets a switch. -/
theorem type_or_setting_of_mem_actions {action : Action} (h : action ∈ flags.actions text) :
    action = .type text ∨ action.setting?.isSome = true := by
  simp only [actions, List.mem_cons, List.mem_append, List.mem_map] at h
  rcases h with rfl | ((⟨_, _, rfl⟩ | ⟨_, _, rfl⟩) | ⟨_, _, rfl⟩) | ⟨_, _, rfl⟩
  · exact .inl rfl
  all_goals exact .inr rfl

end FacetFlags

namespace Session

variable {catalog : Catalog} {vocabulary : Vocabulary} {actions : List Action}

/-- When a user types nothing but one text and sets switches, the search box holds that text without
its unknown tokens, or is still empty. -/
theorem text_box_applied
    (h : ∀ action ∈ actions, action = .type text ∨ action.setting?.isSome = true) :
    (applied catalog vocabulary actions).box.text =
      if .type text ∈ actions then sanitize vocabulary text else [] := by
  induction actions using List.reverseRecOn with
  | nil => rfl
  | append_singleton past action ih =>
    obtain ⟨hpast, haction⟩ := List.forall_mem_append.1 h
    have hbox : (applied catalog vocabulary (past ++ [action])).box =
        editBox (applied catalog vocabulary past).box action := by
      rw [applied_concat, apply_eq]
      rfl
    rw [hbox]
    rcases haction action (List.mem_singleton_self action) with rfl | hsetting
    · have hvocabulary : (applied catalog vocabulary past).box.vocabulary = vocabulary :=
        (consistent_run catalog vocabulary _).settled.vocabulary_eq
      simp [editBox, SearchBox.edit, hvocabulary]
    · have hkept : editBox (applied catalog vocabulary past).box action =
          (applied catalog vocabulary past).box := by
        cases action with
        | setGroup | setSize | setZone | setTag => rfl
        | _ => simp [Action.setting?] at hsetting
      have hne : .type text ≠ action := by
        rintro rfl
        simp [Action.setting?] at hsetting
      rw [hkept, ih hpast]
      simp [hne]

/-- When a user sets switches into their strict position and resets nothing, these switches are
strict and the others as by default. -/
theorem switch?_applied_of_actions (hreset : .reset ∉ actions)
    (hstrict : ∀ setting ∈ actions.filterMap Action.setting?, setting.2 = setting.1.strict)
    (switch : Switch) :
    (applied catalog vocabulary actions).query.switch? switch =
      if (switch, switch.strict) ∈ actions.filterMap Action.setting? then some switch.strict
      else ({} : Query).switch? switch := by
  have hsince : sinceReset actions = actions :=
    List.rtakeWhile_eq_self_iff.2 fun action haction =>
      bne_iff_ne.2 fun heq => hreset (heq ▸ haction)
  rw [switch?_applied, lastSetting?, hsince, lookup_of_strict switch]
  · simp only [List.mem_reverse]
    split <;> rfl
  · simpa using hstrict

end Session

namespace FacetFlags

/-- The flags of a command and the actions of a session agree. In a new session over any catalog, a
user types a text without unknown tokens and sets the switches of some facet flags, each at least
once, in any order and with nothing else in between. Then the query is that of the text and the
flags, and the results are the numbers of the cards that a search with this query lists. So neither
the order nor the repetition of flags matters. -/
theorem session_eq_toQuery (catalog : Catalog) (flags : FacetFlags) (text : Text)
    (steps : List Action) (hclean : sanitize .standard text = text)
    (hdone : flags.actions text ⊆ steps) (honly : steps ⊆ flags.actions text) :
    let book : Encyclopedia := { catalog }
    let session := steps.foldl (Session.apply catalog) book.session
    let query := flags.toQuery (some text)
    session.query = query ∧ session.results = (book.search query).cards.map Card.id ∧
      ∀ others : FacetFlags, flags.SameAs others → others.toQuery (some text) = query := by
  intro book session query
  have hsession : session = Session.applied catalog .standard steps :=
    (Session.applied_eq_foldl catalog .standard steps).symm
  have hsteps : ∀ action ∈ steps, action = .type text ∨ action.setting?.isSome = true :=
    fun action haction => type_or_setting_of_mem_actions (honly haction)
  have hsettings (setting : Switch × Bool) : setting ∈ steps.filterMap Action.setting? ↔
      setting ∈ flags.switches.map fun switch => (switch, switch.strict) := by
    rw [← filterMap_setting?_actions flags text]
    exact ⟨fun h => List.filterMap_subset _ honly h, fun h => List.filterMap_subset _ hdone h⟩
  have hreset : .reset ∉ steps := by
    intro hmem
    rcases hsteps .reset hmem with h | h
    · simp at h
    · simp [Action.setting?] at h
  have htext : session.query.text = text := by
    rw [hsession, Session.text_applied, Session.text_box_applied hsteps,
      if_pos (hdone List.mem_cons_self), hclean]
  have hquery : session.query = query := by
    refine Query.ext_switch? (htext.trans (text_toQuery flags text).symm) fun switch => ?_
    have hmem : (switch, switch.strict) ∈ steps.filterMap Action.setting? ↔
        switch ∈ flags.switches := by
      rw [hsettings, List.mem_map]
      simp
    rw [hsession, Session.switch?_applied_of_actions hreset, switch?_toQuery]
    · simp only [hmem]
    · intro setting hsetting
      obtain ⟨switch, -, rfl⟩ := List.mem_map.1 ((hsettings setting).1 hsetting)
      rfl
  refine ⟨hquery, ?_, fun others hsame => ?_⟩
  · have hcards : catalog.cardsFor (catalog.evaluate query) = catalog.wanted query :=
      Deck.filterMap_find?_id fun card hcard => List.mem_of_mem_filter hcard
    calc session.results
        = catalog.evaluate session.query := by rw [hsession, Session.results_applied]
      _ = catalog.evaluate query := by rw [hquery]
      _ = (catalog.cardsFor (catalog.evaluate query)).map Card.id := by
        rw [hcards, Catalog.evaluate_eq_map]
  · refine Query.ext_switch? ?_ fun switch => ?_
    · rw [text_toQuery, text_toQuery]
    · rw [switch?_toQuery, switch?_toQuery]
      simp only [hsame.mem_switches_iff]

/-- Four flags, one of them given twice, against the switches set in another order around the text,
one of them twice: both ways ask the same of the published cards. -/
theorem session_eq_toQuery_four_flags :
    let flags : FacetFlags := {
      hiddenGroups := ["starter"]
      hiddenSizes := [.small]
      forbiddenZones := [.midnight]
      requiredTraits := [.predator, .predator] }
    let text : Text := "[Predator] shark"
    let steps : List Action := [.setTag .predator true, .setZone .midnight false, .type text,
      .setSize .small false, .setZone .midnight false, .setGroup "starter" false]
    let catalog := Catalog.indexed publishedDeck Field.standard
    sanitize .standard text = text ∧ flags.actions text ⊆ steps ∧ steps ⊆ flags.actions text ∧
      (steps.foldl (Session.apply catalog) (Encyclopedia.session { catalog })).query =
        flags.toQuery (some text) := by
  intro flags text steps catalog
  have hclean : sanitize .standard text = text := by decide +kernel
  have hdone : flags.actions text ⊆ steps := by decide
  have honly : steps ⊆ flags.actions text := by decide
  exact ⟨hclean, hdone, honly, (session_eq_toQuery catalog flags text steps hclean hdone honly).1⟩

end FacetFlags
end ReefCards
