import ReefCards.Proofs.OrderedMap
import ReefCards.Proofs.Text.Lowercase
import ReefCards.Proofs.Text.Occurrence
import ReefCards.Proofs.Text.Trim
import ReefCards.Search.Catalog
import Mathlib.Data.List.Nodup

/-!
# What a query asks for

`Query.Wants` says which cards a query asks for, without mention of how they are found: by the
switches of the facets, and by the words of the text, each of which must occur in a single field.
Evaluating the query in an indexed catalog gives the numbers of exactly these cards. Main
statements: `infix_document_iff`, by which no word is found across two fields, and
`evaluate_indexed`.
-/

namespace ReefCards

variable {deck : Deck} {fields : List Field} {query : Query} {card : Card} {id : CardId}
  {text word : Text}

/-- A list keeps its numbers when they are put in ascending order. -/
theorem mem_ascendingIds (ids : List CardId) : id ∈ ascendingIds ids ↔ id ∈ ids := by
  rw [ascendingIds, OrderedMap.mem_keys_ofList, List.map_map, List.mem_map]
  simp

/-- A word occurs in the lowercase document of a card exactly when it occurs in one of the indexed
fields in lowercase: no word reaches across the line break between two fields. -/
theorem infix_document_iff (fields : List Field) (card : Card) (hword : word ∈ Text.words text) :
    Text.lowercase word <:+: Text.lowercase (Document.ofCard fields card).text ↔
      ∃ field ∈ fields, Text.lowercase word <:+: Text.lowercase (field.read card) := by
  have hne : Text.lowercase word ≠ [] :=
    mt Text.lowercase_eq_nil_iff.1 (Text.ne_nil_of_mem_words hword)
  have hbreak : '\n' ∉ Text.lowercase word := by
    intro hmem
    have hblank := Text.not_blank_of_mem_lowercase (Text.not_blank_of_mem_words text word hword)
    exact absurd (hblank '\n' hmem) (by decide)
  have hdocument : Text.lowercase (Document.ofCard fields card).text =
      Text.join ['\n'] ((fields.map (Field.read card)).map Text.lowercase) :=
    Text.lowercase_join (by decide) _
  rw [hdocument, Text.infix_join_iff hne hbreak]
  simp only [List.mem_map, exists_exists_and_eq_and]

namespace Index

/-- A document has all terms of a text exactly when each word of the text occurs in it in
lowercase. -/
theorem matchesTerms_iff (text : Text) (document : Document) :
    matchesTerms (terms text) document = true ↔
      ∀ word ∈ Text.words text, Text.lowercase word <:+: document.text := by
  simp [matchesTerms, terms, Text.occursIn_iff]

/-- An index finds the numbers of the documents in which all words of the text occur, in whichever
case. -/
theorem mem_search_ofDocuments (documents : List Document) (text : Text) :
    id ∈ (ofDocuments documents).search text ↔
      ∃ document ∈ documents, document.id = id ∧
        ∀ word ∈ Text.words text, Text.lowercase word <:+: Text.lowercase document.text := by
  rw [search, mem_ascendingIds, List.mem_map]
  constructor
  · rintro ⟨lowered, hlowered, rfl⟩
    obtain ⟨hmem, hmatches⟩ := List.mem_filter.1 hlowered
    obtain ⟨document, hdocument, rfl⟩ := List.mem_map.1 hmem
    exact ⟨document, hdocument, rfl, (matchesTerms_iff text _).1 hmatches⟩
  · rintro ⟨document, hdocument, rfl, hwords⟩
    exact ⟨_, List.mem_filter.2 ⟨List.mem_map_of_mem hdocument, (matchesTerms_iff text _).2 hwords⟩,
      rfl⟩

/-- An index finds the numbers of the cards in whose fields all words of the text occur, each in a
single field. -/
theorem mem_search_ofCards (fields : List Field) (cards : List Card) (text : Text) :
    id ∈ (ofCards fields cards).search text ↔
      ∃ card ∈ cards, card.id = id ∧ ∀ word ∈ Text.words text,
        ∃ field ∈ fields, Text.lowercase word <:+: Text.lowercase (field.read card) := by
  rw [ofCards, mem_search_ofDocuments]
  constructor
  · rintro ⟨document, hdocument, rfl, hwords⟩
    obtain ⟨card, hcard, rfl⟩ := List.mem_map.1 hdocument
    exact ⟨card, hcard, rfl, fun word hword =>
      (infix_document_iff fields card hword).1 (hwords word hword)⟩
  · rintro ⟨card, hcard, rfl, hwords⟩
    exact ⟨_, List.mem_map_of_mem hcard, rfl, fun word hword =>
      (infix_document_iff fields card hword).2 (hwords word hword)⟩

end Index

/-- What a query asks of a card: that its group and its size are switched on, that none of its zones
is switched off, that it has every trait that is switched on, and that every word of the text occurs
in one of the indexed fields, in whichever case. -/
structure Query.Wants (query : Query) (fields : List Field) (card : Card) : Prop where
  group : query.groups.get? card.group = some true
  size : query.sizes.get? card.size = some true
  zones : ∀ zone, card.occupies zone = true → query.zones.get? zone ≠ some false
  tags : ∀ mark, query.tags.get? mark = some true → card.hasTrait mark = true
  words : ∀ word ∈ Text.words query.text,
    ∃ field ∈ fields, Text.lowercase word <:+: Text.lowercase (field.read card)

namespace Query

/-- A group that has no switch is as one that is switched off. -/
theorem groupAllows_iff (query : Query) (card : Card) :
    query.groupAllows card = true ↔ query.groups.get? card.group = some true := by
  rw [groupAllows]
  cases query.groups.get? card.group <;> simp

/-- A size that has no switch is as one that is switched off. -/
theorem sizeAllows_iff (query : Query) (card : Card) :
    query.sizeAllows card = true ↔ query.sizes.get? card.size = some true := by
  rw [sizeAllows]
  cases query.sizes.get? card.size <;> simp

/-- Only a zone that is switched off hides the cards in it. -/
theorem zonesAllow_iff (query : Query) (card : Card) :
    query.zonesAllow card = true ↔
      ∀ zone, card.occupies zone = true → query.zones.get? zone ≠ some false := by
  rw [zonesAllow, List.all_eq_true]
  have hzone (zone : Zone) : ((query.zones.get? zone).getD true || !card.occupies zone) = true ↔
      (card.occupies zone = true → query.zones.get? zone ≠ some false) := by
    rcases query.zones.get? zone with _ | (_ | _) <;> simp
  exact ⟨fun h zone => (hzone zone).1 (h zone (Zone.mem_all zone)),
    fun h zone _ => (hzone zone).2 (h zone)⟩

/-- Only a trait that is switched on is required. -/
theorem tagsAllow_iff (query : Query) (card : Card) :
    query.tagsAllow card = true ↔
      ∀ mark, query.tags.get? mark = some true → card.hasTrait mark = true := by
  rw [tagsAllow, List.all_eq_true]
  have hmark (mark : Trait) : (!(query.tags.get? mark).getD false || card.hasTrait mark) = true ↔
      (query.tags.get? mark = some true → card.hasTrait mark = true) := by
    rcases query.tags.get? mark with _ | (_ | _) <;> simp
  exact ⟨fun h mark => (hmark mark).1 (h mark (Trait.mem_all mark)),
    fun h mark _ => (hmark mark).2 (h mark)⟩

/-- A query wants the cards that its facets let through and in which all words of its text occur. -/
theorem wants_iff (query : Query) (fields : List Field) (card : Card) :
    query.Wants fields card ↔ query.passes card = true ∧ ∀ word ∈ Text.words query.text,
      ∃ field ∈ fields, Text.lowercase word <:+: Text.lowercase (field.read card) := by
  simp only [passes, Bool.and_eq_true, groupAllows_iff, sizeAllows_iff, zonesAllow_iff,
    tagsAllow_iff]
  constructor
  · exact fun h => ⟨⟨⟨⟨h.group, h.size⟩, h.zones⟩, h.tags⟩, h.words⟩
  · rintro ⟨⟨⟨⟨hgroup, hsize⟩, hzones⟩, htags⟩, hwords⟩
    exact ⟨hgroup, hsize, hzones, htags, hwords⟩

end Query

namespace Deck

/-- Two cards of a deck with the same number are the same. -/
theorem eq_of_id_eq {first second : Card} (hfirst : first ∈ deck.cards)
    (hsecond : second ∈ deck.cards) (hid : first.id = second.id) : first = second := by
  have hdistinct : (deck.cards.map Card.id).Nodup :=
    List.pairwise_map.2 (deck.ascending.imp Nat.ne_of_lt)
  exact List.inj_on_of_nodup_map hdistinct hfirst hsecond hid

/-- A deck selects the listed numbers whose cards the query lets through. -/
theorem mem_select (deck : Deck) (query : Query) (ids : List CardId) :
    id ∈ deck.select query ids ↔
      ∃ card ∈ deck.cards, card.id = id ∧ card.id ∈ ids ∧ query.passes card = true := by
  simp only [select, List.mem_map, List.mem_filter, Bool.and_eq_true, List.contains_iff_mem]
  constructor
  · rintro ⟨card, ⟨hcard, hid, hpasses⟩, rfl⟩
    exact ⟨card, hcard, rfl, hid, hpasses⟩
  · rintro ⟨card, hcard, rfl, hid, hpasses⟩
    exact ⟨card, ⟨hcard, hid, hpasses⟩, rfl⟩

/-- A selection is in strictly ascending order. -/
theorem pairwise_select (deck : Deck) (query : Query) (ids : List CardId) :
    (deck.select query ids).Pairwise (· < ·) :=
  List.pairwise_map.2 (deck.ascending.filter _)

end Deck

namespace Catalog

/-- A card is found by its text exactly when each word of the text occurs in one of its indexed
fields; a blank text finds every card. -/
theorem mem_searchIds_indexed (hcard : card ∈ deck.cards) (text : Text) :
    card.id ∈ (indexed deck fields).searchIds text ↔ ∀ word ∈ Text.words text,
      ∃ field ∈ fields, Text.lowercase word <:+: Text.lowercase (field.read card) := by
  rw [searchIds]
  split
  · next hblank =>
    have hwords : Text.words text = [] := by
      rwa [Text.words_eq_nil_iff, ← Text.trim_eq_nil_iff, ← List.isEmpty_iff]
    simp only [hwords, List.not_mem_nil, false_implies, implies_true, iff_true]
    exact List.mem_map_of_mem hcard
  · rw [indexed, Index.mem_search_ofCards]
    constructor
    · rintro ⟨other, hother, hid, hwords⟩
      rwa [Deck.eq_of_id_eq hother hcard hid] at hwords
    · exact fun hwords => ⟨card, hcard, rfl, hwords⟩

/-- Evaluating a query in an indexed catalog gives, in strictly ascending order, the numbers of
exactly the cards that the query wants. -/
theorem evaluate_indexed (deck : Deck) (fields : List Field) (query : Query) :
    ((indexed deck fields).evaluate query).Pairwise (· < ·) ∧
      ∀ id, id ∈ (indexed deck fields).evaluate query ↔
        ∃ card ∈ deck.cards, card.id = id ∧ query.Wants fields card := by
  refine ⟨Deck.pairwise_select deck query _, fun id => ?_⟩
  rw [evaluate, indexed, Deck.mem_select, ← indexed]
  refine exists_congr fun card => and_congr_right fun (hcard : card ∈ deck.cards) =>
    and_congr_right fun _ => ?_
  rw [mem_searchIds_indexed hcard, Query.wants_iff, and_comm]

end Catalog
end ReefCards
