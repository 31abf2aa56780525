import ReefCards.Card.Basic
import ReefCards.Icon.Glyph
import ReefCards.Markup.Parse
import ReefCards.Markup.Render

/-!
# Badges of a card

The icons that stand for a card's numbers and traits beside its ability. A number whose icon the
vocabulary lacks is left out, while a trait without an icon is shown by its name.
-/

namespace ReefCards

/-- A trait as it stands beside the name of a card. -/
inductive NameMark where
  | icon (token : IconToken)
  | label (mark : Trait) (count : Nat)
  deriving DecidableEq, Repr

/-- The rows of the board that a card takes. -/
inductive ZoneRow where
  | single (zone : Zone)
  /-- Both of the lowest rows. -/
  | bottomTwo
  deriving DecidableEq, Repr

/-- The traits in the order in which they stand beside a name. -/
def nameOrder : List Trait := [.predator, .bioluminescent, .camouflage, .electric, .venomous]

namespace Card

/-- The costs of a card with the names of their icons. -/
def costs (card : Card) : List (Text × Nat) :=
  [("DrawCard", card.cardCost), ("FishEgg", card.eggCost), ("YoungFish", card.youngCost),
    ("ConsumeFish", card.consuming)]

/-- The icons for the costs of a card, each as often as the cost is high. -/
def costIcons (card : Card) (vocabulary : Vocabulary) : List IconToken :=
  (card.costs.filter fun cost => cost.2 ≠ 0).filterMap fun cost =>
    (IconToken.of? vocabulary cost.1).map fun token => token.times cost.2

/-- The marks beside the name of a card. -/
def nameMarks (card : Card) (vocabulary : Vocabulary) : List NameMark :=
  (nameOrder.filter card.hasTrait).map fun mark =>
    match IconToken.of? vocabulary (Named.name mark) with
    | some token => .icon (token.times (card.traitCount mark))
    | none => .label mark (card.traitCount mark)

/-- The name of the icon for a size. -/
def sizeIcon : Size → Text
  | .small => "FishLengthSmall"
  | .medium => "FishLengthMedium"
  | .large => "FishLengthLarge"

/-- The icon for the length of a card's fish. -/
def lengthIcon? (card : Card) (vocabulary : Vocabulary) : Option IconToken :=
  IconToken.of? vocabulary (sizeIcon card.size)

/-- The icon for the points of a card. -/
def pointsIcon? (card : Card) (vocabulary : Vocabulary) : Option IconToken := do
  let points ← card.points
  let token ← IconToken.of? vocabulary Vocabulary.wave
  pure (token.withQuantity points)

/-- The rows of the board that a card takes; a count of two at midnight means both of the lowest. -/
def zoneRows (card : Card) : List ZoneRow :=
  ((Named.all : List Zone).filter card.occupies).map fun zone =>
    if zone = .midnight ∧ card.midnight = 2 then .bottomTwo else .single zone

/-- The ability of a card as it is printed, after its heading. -/
def renderAbility (card : Card) (vocabulary : Vocabulary) : Text :=
  let body := renderSegments vocabulary (parse card.ability)
  match card.abilityKind with
  | some kind => if body.isEmpty then kind.label else kind.label ++ ' ' :: body
  | none => body

end Card
end ReefCards
