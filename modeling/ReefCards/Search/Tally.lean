import ReefCards.Card.Deck
import ReefCards.OrderedMap

/-!
# Tallies

How a list of cards spreads over the facets: how many cards there are, and how many have each group,
size, zone and trait. A value that no card has does not appear.
-/

namespace ReefCards

/-- The numbers of cards by group, size, zone and trait. -/
structure Tally where
  total : Nat := 0
  groups : OrderedMap Text Nat := .empty
  sizes : OrderedMap Size Nat := .empty
  zones : OrderedMap Zone Nat := .empty
  traits : OrderedMap Trait Nat := .empty
  deriving DecidableEq

namespace Tally

/-- Counts a key once more. -/
def count {κ : Type} [Ord κ] [Std.TransOrd κ] [Std.LawfulEqOrd κ] (counts : OrderedMap κ Nat)
    (key : κ) : OrderedMap κ Nat :=
  counts.insert key ((counts.get? key).getD 0 + 1)

/-- Counts a card. -/
def add (tally : Tally) (card : Card) : Tally where
  total := tally.total + 1
  groups := count tally.groups card.group
  sizes := count tally.sizes card.size
  zones := ((Named.all : List Zone).filter card.occupies).foldl count tally.zones
  traits := ((Named.all : List Trait).filter card.hasTrait).foldl count tally.traits

/-- The tally of a list of cards. -/
def ofCards (cards : List Card) : Tally := cards.foldl add {}

end Tally

/-- The tally of the cards with the listed numbers; a number without a card is passed over. -/
def Deck.tally (deck : Deck) (ids : List CardId) : Tally := .ofCards (ids.filterMap deck.find?)

end ReefCards
