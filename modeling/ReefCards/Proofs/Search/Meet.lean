import ReefCards.Proofs.Search.Switch

/-!
# What two queries ask for together

A query may ask for what two others ask for together: it has the words of both texts, includes the
groups and the sizes that both include, allows the zones that both allow and requires the traits
that either requires. Its results are those that the two queries share, and a query that asks for
less keeps its results. Main statements: `Query.passes_of_isMeet`, `Query.passes_set_loose` and
`Catalog.evaluate_of_isMeet`.
-/

namespace ReefCards

variable {deck : Deck} {fields : List Field} {first second both query : Query} {card : Card}
  {id : CardId}

namespace Query

/-- Whether a query asks for what two queries ask for together. Each facet goes by its own rule for
a value without a switch. -/
structure IsMeet (first second both : Query) : Prop where
  text : both.text = first.text ++ ' ' :: second.text
  groups : ∀ group, (both.groups.get? group).getD false =
    ((first.groups.get? group).getD false && (second.groups.get? group).getD false)
  sizes : ∀ size, (both.sizes.get? size).getD false =
    ((first.sizes.get? size).getD false && (second.sizes.get? size).getD false)
  zones : ∀ zone, (both.zones.get? zone).getD true =
    ((first.zones.get? zone).getD true && (second.zones.get? zone).getD true)
  tags : ∀ mark, (both.tags.get? mark).getD false =
    ((first.tags.get? mark).getD false || (second.tags.get? mark).getD false)

/-- The query that asks for what two queries ask for together, with a switch for each group that the
first has and for each value of the other facets. -/
def meet (first second : Query) : Query where
  text := first.text ++ ' ' :: second.text
  groups := .ofList (first.groups.keys.map fun group =>
    (group, (first.groups.get? group).getD false && (second.groups.get? group).getD false))
  sizes := .ofList (Named.all.map fun size =>
    (size, (first.sizes.get? size).getD false && (second.sizes.get? size).getD false))
  zones := .ofList (Named.all.map fun zone =>
    (zone, (first.zones.get? zone).getD true && (second.zones.get? zone).getD true))
  tags := .ofList (Named.all.map fun mark =>
    (mark, (first.tags.get? mark).getD false || (second.tags.get? mark).getD false))

/-- Any two queries have one that asks for what both ask for. -/
theorem isMeet_meet (first second : Query) : first.IsMeet second (first.meet second) where
  text := rfl
  groups group := by
    rw [meet, OrderedMap.get?_ofList_map]
    by_cases h : group ∈ first.groups.keys
    · rw [if_pos h, Option.getD_some]
    · have hnone : first.groups.get? group = none := by
        simpa using mt (OrderedMap.mem_keys_iff first.groups group).2 h
      rw [if_neg h, hnone, Option.getD_none, Bool.false_and]
  sizes size := by
    rw [meet, OrderedMap.get?_ofList_map, if_pos (Size.mem_all size), Option.getD_some]
  zones zone := by
    rw [meet, OrderedMap.get?_ofList_map, if_pos (Zone.mem_all zone), Option.getD_some]
  tags mark := by
    rw [meet, OrderedMap.get?_ofList_map, if_pos (Trait.mem_all mark), Option.getD_some]

/-- A switch counts in its strict position when it does so in one of the two queries. -/
theorem IsMeet.strict_iff (h : first.IsMeet second both) (switch : Switch) :
    (both.switch? switch).getD switch.missing = switch.strict ↔
      (first.switch? switch).getD switch.missing = switch.strict ∨
        (second.switch? switch).getD switch.missing = switch.strict := by
  cases switch with
  | group group =>
    simp only [switch?, Switch.missing, Switch.strict, h.groups, Bool.and_eq_false_iff]
  | size size =>
    simp only [switch?, Switch.missing, Switch.strict, h.sizes, Bool.and_eq_false_iff]
  | zone zone =>
    simp only [switch?, Switch.missing, Switch.strict, h.zones, Bool.and_eq_false_iff]
  | tag mark => simp only [switch?, Switch.missing, Switch.strict, h.tags, Bool.or_eq_true]

/-- A switch admits a card when it does so in both queries. -/
theorem IsMeet.admits_iff (h : first.IsMeet second both) (switch : Switch) (card : Card) :
    both.Admits switch card ↔ first.Admits switch card ∧ second.Admits switch card := by
  rw [Admits, h.strict_iff, or_imp]
  rfl

/-- The facets let a card through when those of both queries do. -/
theorem passes_of_isMeet (h : first.IsMeet second both) (card : Card) :
    both.passes card = true ↔ first.passes card = true ∧ second.passes card = true := by
  simp only [passes_iff_admits, h.admits_iff, forall_and]

/-- A query wants the cards that both queries want. -/
theorem IsMeet.wants_iff (h : first.IsMeet second both) (fields : List Field) (card : Card) :
    both.Wants fields card ↔ first.Wants fields card ∧ second.Wants fields card := by
  have hwords : Text.words both.text = Text.words first.text ++ Text.words second.text := by
    rw [h.text, Text.words_append_blank (by decide)]
  simp only [Query.wants_iff, passes_of_isMeet h, hwords, List.forall_mem_append]
  exact and_and_and_comm

/-- A query with a switch out of its strict position lets through all cards of before. -/
theorem passes_set_loose (query : Query) (switch : Switch) (card : Card)
    (h : query.passes card = true) : (query.set switch !switch.strict).passes card = true := by
  rw [passes_iff_admits] at h ⊢
  intro other
  by_cases heq : other = switch
  · intro hstrict
    rw [switch?_set, if_pos heq, Option.getD_some, heq] at hstrict
    simp at hstrict
  · rw [Admits, switch?_set, if_neg heq]
    exact h other

/-- A query with a switch out of its strict position wants all cards of before. -/
theorem Wants.set_loose (h : query.Wants fields card) (switch : Switch) :
    (query.set switch !switch.strict).Wants fields card := by
  obtain ⟨hpasses, hwords⟩ := (wants_iff query fields card).1 h
  refine (wants_iff _ fields card).2 ⟨passes_set_loose query switch card hpasses, ?_⟩
  rwa [text_set]

/-- A query wants all cards that it wants with one more switch in its strict position. -/
theorem Wants.of_set_strict (switch : Switch)
    (h : (query.set switch switch.strict).Wants fields card) : query.Wants fields card := by
  obtain ⟨hpasses, hwords⟩ := (wants_iff _ fields card).1 h
  rw [passes_set_strict, Bool.and_eq_true] at hpasses
  rw [text_set] at hwords
  exact (wants_iff query fields card).2 ⟨hpasses.1, hwords⟩

/-- A query wants all cards that it wants with more words. -/
theorem Wants.of_words {text : Text} (h : (query.withText text).Wants fields card)
    (hwords : Text.words query.text ⊆ Text.words text) : query.Wants fields card where
  group := h.group
  size := h.size
  zones := h.zones
  tags := h.tags
  words word hword := h.words word (hwords hword)

end Query

namespace Catalog

/-- Evaluating a query gives the number of a card of the deck when the query wants the card. -/
theorem id_mem_evaluate_iff (hcard : card ∈ deck.cards) (query : Query) :
    card.id ∈ (indexed deck fields).evaluate query ↔ query.Wants fields card := by
  rw [Query.wants_iff, ← mem_searchIds_indexed hcard, evaluate, Deck.mem_select]
  constructor
  · rintro ⟨other, hother, hid, hfound, hpasses⟩
    obtain rfl : other = card := Deck.eq_of_id_eq hother hcard hid
    exact ⟨hpasses, hfound⟩
  · rintro ⟨hpasses, hfound⟩
    exact ⟨card, hcard, rfl, hfound, hpasses⟩

/-- The results of a query are numbers of cards. -/
theorem exists_of_mem_evaluate (h : id ∈ (indexed deck fields).evaluate query) :
    ∃ card ∈ deck.cards, card.id = id := by
  obtain ⟨card, hcard, hid, -⟩ := (Deck.mem_select deck query _).1 h
  exact ⟨card, hcard, hid⟩

/-- A query that wants no card beyond those of another has no result beyond those of the other. -/
theorem evaluate_subset {less more : Query}
    (h : ∀ card, less.Wants fields card → more.Wants fields card) :
    (indexed deck fields).evaluate less ⊆ (indexed deck fields).evaluate more := by
  intro id hid
  obtain ⟨card, hcard, rfl⟩ := exists_of_mem_evaluate hid
  rw [id_mem_evaluate_iff hcard] at hid ⊢
  exact h card hid

/-- Asking for what two queries ask for together gives, in ascending order, the results that the two
share, and any two queries can be asked together. So switching a group, a size or a zone on never
takes a result away, and requiring a trait or adding words to the text never brings one in. -/
theorem evaluate_of_isMeet (deck : Deck) (fields : List Field) (first second : Query) :
    let results := (indexed deck fields).evaluate
    first.IsMeet second (first.meet second) ∧
      (∀ both, first.IsMeet second both → (results both).Pairwise (· < ·) ∧
        ∀ id, id ∈ results both ↔ id ∈ results first ∧ id ∈ results second) ∧
      ∀ query : Query,
        (∀ group, results query ⊆ results (query.withGroup group true)) ∧
        (∀ size, results query ⊆ results (query.withSize size true)) ∧
        (∀ zone, results query ⊆ results (query.withZone zone true)) ∧
        (∀ mark, results (query.withTag mark true) ⊆ results query) ∧
        (∀ word, results (query.withText (query.text ++ ' ' :: word)) ⊆ results query) ∧
        ∀ text, Text.words query.text ⊆ Text.words text →
          results (query.withText text) ⊆ results query := by
  intro results
  refine ⟨Query.isMeet_meet first second, fun both h => ⟨Deck.pairwise_select deck both _,
    fun id => ⟨fun hid => ?_, fun ⟨hfirst, hsecond⟩ => ?_⟩⟩, fun query => ?_⟩
  · obtain ⟨card, hcard, rfl⟩ := exists_of_mem_evaluate hid
    simp only [results, id_mem_evaluate_iff hcard] at hid ⊢
    exact (h.wants_iff fields card).1 hid
  · obtain ⟨card, hcard, rfl⟩ := exists_of_mem_evaluate hfirst
    simp only [results, id_mem_evaluate_iff hcard] at hfirst hsecond ⊢
    exact (h.wants_iff fields card).2 ⟨hfirst, hsecond⟩
  · have hloose (switch : Switch) : results query ⊆ results (query.set switch !switch.strict) :=
      evaluate_subset fun card h => h.set_loose switch
    have hwords (text : Text) (h : Text.words query.text ⊆ Text.words text) :
        results (query.withText text) ⊆ results query :=
      evaluate_subset fun card hcard => hcard.of_words h
    refine ⟨fun group => hloose (.group group), fun size => hloose (.size size),
      fun zone => hloose (.zone zone), fun mark => ?_, fun word => hwords _ ?_, hwords⟩
    · exact evaluate_subset fun card h => h.of_set_strict (.tag mark)
    · rw [Text.words_append_blank (by decide)]
      exact List.subset_append_left _ _

end Catalog
end ReefCards
