import ReefCards.Card.Deck
import ReefCards.Search.Query

/-!
# Facet filters

Which cards the switches of a query let through. A group or a size must be switched on; a zone that
is switched off hides every card in it; a trait that is switched on is required. A missing switch
excludes a group or a size and leaves a zone or a trait free.
-/

namespace ReefCards
namespace Query

/-- Whether the card's group is switched on. -/
def groupAllows (query : Query) (card : Card) : Bool :=
  (query.groups.get? card.group).getD false

/-- Whether the card's size is switched on. -/
def sizeAllows (query : Query) (card : Card) : Bool :=
  (query.sizes.get? card.size).getD false

/-- Whether no zone of the card is switched off. -/
def zonesAllow (query : Query) (card : Card) : Bool :=
  (Named.all : List Zone).all fun zone =>
    (query.zones.get? zone).getD true || !card.occupies zone

/-- Whether the card has every trait that is switched on. -/
def tagsAllow (query : Query) (card : Card) : Bool :=
  (Named.all : List Trait).all fun mark =>
    !(query.tags.get? mark).getD false || card.hasTrait mark

/-- Whether every facet lets the card through. -/
def passes (query : Query) (card : Card) : Bool :=
  query.groupAllows card && query.sizeAllows card && query.zonesAllow card && query.tagsAllow card

end Query

/-- The numbers in the list that belong to cards which the query lets through, in ascending
order. -/
def Deck.select (deck : Deck) (query : Query) (ids : List CardId) : List CardId :=
  (deck.cards.filter fun card => ids.contains card.id && query.passes card).map Card.id

end ReefCards
