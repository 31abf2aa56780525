import ReefCards.Search.Filter
import ReefCards.Search.Index
import ReefCards.Search.Tally

/-!
# Catalogs

A deck together with a way to look texts up in it. Evaluating a query takes the cards that match its
text and keeps those that its facets let through; a blank text matches every card.
-/

namespace ReefCards

/-- A deck and the numbers that a search text finds. -/
structure Catalog where
  deck : Deck
  lookup : Text → List CardId

namespace Catalog

/-- The catalog of a deck with an index over the chosen fields. -/
def indexed (deck : Deck) (fields : List Field) : Catalog where
  deck := deck
  lookup := (Index.ofCards fields deck.cards).search

/-- The numbers of the cards that match a text. -/
def searchIds (catalog : Catalog) (text : Text) : List CardId :=
  if (Text.trim text).isEmpty then catalog.deck.ids else catalog.lookup text

/-- The numbers of the cards that a query asks for, in ascending order. -/
def evaluate (catalog : Catalog) (query : Query) : List CardId :=
  catalog.deck.select query (catalog.searchIds query.text)

/-- The cards with the listed numbers; a number without a card is passed over. -/
def cardsFor (catalog : Catalog) (ids : List CardId) : List Card :=
  ids.filterMap catalog.deck.find?

end Catalog
end ReefCards
