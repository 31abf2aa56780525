import ReefCards.Card.Facet

/-!
# Cards

One printed card of the game: what is written on it, what it costs to play, the zones it can be
played in and its traits. Counts are numbers, and a count of zero means that the card lacks the
thing counted.
-/

namespace ReefCards

/-- The number by which a card is known. -/
abbrev CardId := Nat

/-- When a card's ability takes effect. -/
inductive AbilityKind where
  | whenPlayed
  | ifActivated
  | gameEnd
  deriving DecidableEq, Repr

/-- The heading that is printed before an ability. -/
def AbilityKind.label : AbilityKind → Text
  | .whenPlayed => "WHEN PLAYED:"
  | .ifActivated => "IF ACTIVATED:"
  | .gameEnd => "GAME END:"

/-- A card. -/
structure Card where
  id : CardId
  group : Text := []
  /-- The length of the fish in centimetres. -/
  length : Float := 0
  name : Text := []
  latin : Text := []
  description : Text := []
  /-- What the card does, in markup. -/
  ability : Text := []
  abilityKind : Option AbilityKind := none
  points : Option Nat := none
  band : Option Text := none
  cardCost : Nat := 0
  eggCost : Nat := 0
  youngCost : Nat := 0
  consuming : Nat := 0
  sunlight : Nat := 0
  twilight : Nat := 0
  midnight : Nat := 0
  bioluminescent : Nat := 0
  camouflage : Nat := 0
  electric : Nat := 0
  predator : Nat := 0
  venomous : Nat := 0

namespace Card

/-- How much of a zone a card takes. -/
def zoneCount (card : Card) : Zone → Nat
  | .sunlight => card.sunlight
  | .twilight => card.twilight
  | .midnight => card.midnight

/-- Whether a card can be played in a zone. -/
def occupies (card : Card) (zone : Zone) : Bool := card.zoneCount zone ≠ 0

/-- How often a card has a trait. -/
def traitCount (card : Card) : Trait → Nat
  | .bioluminescent => card.bioluminescent
  | .camouflage => card.camouflage
  | .electric => card.electric
  | .predator => card.predator
  | .venomous => card.venomous

/-- Whether a card has a trait. -/
def hasTrait (card : Card) (mark : Trait) : Bool := card.traitCount mark ≠ 0

/-- The size of the card's fish. -/
def size (card : Card) : Size := .ofLength card.length

end Card
end ReefCards
